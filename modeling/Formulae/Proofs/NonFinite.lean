import Formulae.Proofs.Double.Laws
import Formulae.Proofs.FirstPass

/-! Where the constants of a simplified formula come from. They stand in the formula, are zeros, or
were folded; and folding to a constant that is not finite is announced by a warning, at every
verbosity but the lowest. So an infinite or undefined constant never appears silently. -/
namespace Formulae

open Arithmetic

def foldWarning {α : Type} [Arithmetic α] [Written α] (op : BinaryOp) (a b : α) : Record :=
  ⟨.warning, "Folding " ++
    ("(" ++ Number.text a ++ " " ++ op.symbol ++ " " ++ Number.text b ++ ")") ++
    " produced non-finite constant " ++ Written.text (op.eval a b)⟩

theorem Firing.foldWarning_mem_records {ν α : Type} [Naming ν] [Arithmetic α] [Written α]
    {w : Firing ν α} {a b : α} {ws : List Record} (hrule : w.rule = .fold a b)
    (hinfinite : ¬isFinite (w.op.eval a b)) (hws : w.records = .ok ws) :
    foldWarning w.op a b ∈ ws := by
  simp only [records, hrule, hinfinite] at hws
  cases hws
  exact List.mem_cons_self

namespace Formula

section Origins

variable {ν α : Type} [Arithmetic α] [BEq ν] {e l r : Formula ν α} {a : α} {op : BinaryOp}

/-- Where a constant comes from that stands in the simplified formula. -/
inductive Origin (e : Formula ν α) (a : α) : Prop where
  | formula (h : const a ∈ e.depthFirst)
  | zero (h : a = 0)
  | fold {w : Firing ν α} {b c : α} (hw : w ∈ e.firings) (hrule : w.rule = .fold b c)
    (h : a = w.op.eval b c)

theorem Origin.mono {f : Formula ν α} (h : Origin e a)
    (hnodes : ∀ n ∈ e.depthFirst, n ∈ f.depthFirst) (hfirings : ∀ w ∈ e.firings, w ∈ f.firings) :
    Origin f a := by
  cases h with
  | formula h => exact .formula (hnodes _ h)
  | zero h => exact .zero h
  | fold hw hrule h => exact .fold (hfirings _ hw) hrule h

theorem Origin.left (h : Origin l a) : Origin (binary op l r) a := by
  refine h.mono (fun n hn => ?_) (fun w hw => ?_)
  · exact mem_depthFirst_left hn
  · exact List.mem_append_left _ (List.mem_append_left _ hw)

theorem Origin.right (h : Origin r a) : Origin (binary op l r) a := by
  refine h.mono (fun n hn => ?_) (fun w hw => ?_)
  · exact mem_depthFirst_right hn
  · exact List.mem_append_left _ (List.mem_append_right _ hw)

/-- A constant of an operation on simplified operands is one of theirs, unless a rule made it. -/
theorem const_mem_combine (h : const a ∈ (combine op l r).depthFirst) :
    const a ∈ l.depthFirst ∨ const a ∈ r.depthFirst ∨ a = 0 ∨
      ∃ b c, rule? op l r = some (.fold b c) ∧ a = op.eval b c := by
  unfold combine at h
  cases hrule : rule? op l r with
  | none =>
    rw [hrule] at h
    rcases List.mem_cons.1 h with heq | hmem
    · cases heq
    · rcases List.mem_append.1 hmem with hl | hr
      · exact .inl hl
      · exact .inr (.inl hr)
  | some rule =>
    rw [hrule] at h
    cases rule with
    | fold b c =>
      cases List.mem_singleton.1 h
      exact .inr (.inr (.inr ⟨b, c, rfl, rfl⟩))
    | zeroAdd | oneMul => exact .inr (.inl h)
    | addZero | mulOne | divOne => exact .inl h
    | cancel | absorb =>
      cases List.mem_singleton.1 h
      exact .inr (.inr (.inl rfl))

theorem origin_of_mem_pass (h : const a ∈ e.pass.depthFirst) : Origin e a := by
  induction e with
  | const b => exact .formula h
  | var x => exact .formula h
  | sign s e ih =>
    have hmem : const a ∈ e.pass.depthFirst := by
      cases s with
      | plus => exact h
      | minus => exact (List.mem_cons.1 h).resolve_left nofun
    exact (ih hmem).mono (fun n hn => List.mem_cons_of_mem _ hn) fun w hw => hw
  | apply f e ih =>
    have hmem : const a ∈ e.pass.depthFirst := (List.mem_cons.1 h).resolve_left nofun
    exact (ih hmem).mono (fun n hn => List.mem_cons_of_mem _ hn) fun w hw => hw
  | binary op l r ihl ihr =>
    rcases const_mem_combine h with hl | hr | hzero | ⟨b, c, hrule, heq⟩
    · exact (ihl hl).left
    · exact (ihr hr).right
    · exact .zero hzero
    · refine .fold (w := ⟨.fold b c, op, l.pass, r.pass⟩) ?_ rfl heq
      rw [firings, hrule]
      exact List.mem_append_right _ List.mem_cons_self

end Origins

theorem problems_eq_nil_iff {ν α : Type} [Naming ν] [Arithmetic α] {e : Formula ν α} :
    e.problems = [] ↔ (∀ a, const a ∈ e.depthFirst → isFinite a) ∧
      ∀ x, var x ∈ e.depthFirst → Naming.isIdentifier x := by
  rw [problems, List.filterMap_eq_nil_iff]
  constructor
  · intro h
    refine ⟨fun a ha => ?_, fun x hx => ?_⟩
    · by_contra hinfinite
      simpa [problem?, hinfinite] using h _ ha
    · by_contra hodd
      simpa [problem?, hodd] using h _ hx
  · rintro ⟨hconst, hvar⟩ n hn
    cases n with
    | const a => exact if_pos (hconst a hn)
    | var x => exact if_pos (hvar x hn)
    | _ => rfl

end Formula

namespace Expression

variable {e : Expression} {m : Int} {j : Journal}

theorem mem_or_foldWarning_mem_emitted (h : e.HasTexts) (hm : 1 ≤ m)
    (hv : j.verbosity.admits .minimal) {a : Float} (ha : .const a ∈ e.pass.depthFirst)
    (hinfinite : ¬isFinite a) : .const a ∈ e.depthFirst ∨
      ∃ op b c, a = op.eval b c ∧ foldWarning op b c ∈ (simplified (.int m) e).emitted j := by
  cases Formula.origin_of_mem_pass ha with
  | formula hmem => exact .inl hmem
  | zero hzero =>
    rw [hzero] at hinfinite
    exact absurd Number.Double.isFinite_zero hinfinite
  | @fold w b c hw hrule heq =>
    rw [heq] at hinfinite
    obtain ⟨rs, hemits, hmem⟩ := exists_simplified_emits h
    obtain ⟨ws, hws⟩ := w.records_isOk (h.firings hw).1 (h.firings hw).2
    have hwarning := Firing.foldWarning_mem_records hrule hinfinite hws
    have hreported : foldWarning w.op b c ∈ rs := (hmem _).2 ⟨w, hw, ws, hws, hwarning⟩
    exact .inr ⟨w.op, b, c, heq, (hemits m hm).mem_emitted_of_warning hreported rfl hv⟩

/-- Simplification succeeds, and every destination is given what it emits. If that is no warning,
the infinite and undefined constants of the result stand in the expression; and the result of an
expression without problems has none either, unless a fold was announced that is not finite. -/
theorem simplified_announces_nonfinite (e : Expression) (h : e.HasTexts) {m : Int} (hm : 1 ≤ m)
    {j : Journal} (hv : j.verbosity.admits .minimal) :
    ∃ f j', (simplified (.int m) e).runIn j = (.ok f, j') ∧
      j'.written = j.written ++
        Journal.spread j.destinations ((simplified (.int m) e).emitted j) ∧
      ((∀ r ∈ (simplified (.int m) e).emitted j, r.severity ≠ .warning) →
        ∀ a, .const a ∈ f.depthFirst → ¬isFinite a → .const a ∈ e.depthFirst) ∧
      (e.problems = [] → f.problems = [] ∨ ∃ op, ∃ a b : Float, ¬isFinite (op.eval a b) ∧
        foldWarning op a b ∈ (simplified (.int m) e).emitted j) := by
  obtain ⟨rs, hemits, -⟩ := exists_simplified_emits h
  have hrun := hemits m hm j
  have hwritten := (hemits m hm).written_eq j
  rw [hrun] at hwritten
  refine ⟨e.pass, _, hrun, hwritten, fun hquiet a ha hinfinite => ?_, fun hvalid => ?_⟩
  · rcases mem_or_foldWarning_mem_emitted h hm hv ha hinfinite with hmem | ⟨op, b, c, -, hwarning⟩
    · exact hmem
    · exact absurd rfl (hquiet _ hwarning)
  · obtain ⟨hfinite, hnames⟩ := Formula.problems_eq_nil_iff.1 hvalid
    refine or_iff_not_imp_right.2 fun hsilent => Formula.problems_eq_nil_iff.2 ⟨?_, ?_⟩
    · intro a ha
      by_contra hinfinite
      rcases mem_or_foldWarning_mem_emitted h hm hv ha hinfinite with
        hmem | ⟨op, b, c, rfl, hwarning⟩
      · exact hinfinite (hfinite a hmem)
      · exact hsilent ⟨op, b, c, hinfinite, hwarning⟩
    · intro x hx
      exact hnames x ((Formula.remnant_pass e).mem_var hx)

def infiniteSum : Expression :=
  .binary .div (.binary .add (.var (.text "x")) (.const (1.0 / 0.0))) (.const 1.0)

def poleSum : Expression :=
  .binary .add (.var (.text "x")) (.binary .div (.const 1.0) (.const 0.0))

theorem infiniteSum_and_poleSum_simplified :
    (∃ f j', (simplified (.int 8) infiniteSum).runIn .initial = (.ok f, j') ∧
      ∀ a, .const a ∈ f.depthFirst → ¬isFinite a → .const a ∈ infiniteSum.depthFirst) ∧
    (∃ f j', (simplified (.int 8) poleSum).runIn .initial = (.ok f, j') ∧ f.problems ≠ [] ∧
      ∃ op, ∃ a b : Float, ¬isFinite (op.eval a b) ∧
        foldWarning op a b ∈ (simplified (.int 8) poleSum).emitted .initial) := by
  have htexts : infiniteSum.HasTexts ∧ poleSum.HasTexts := by
    simp [infiniteSum, poleSum, Formula.HasTexts, Formula.depthFirst, Naming.odd?]
  have hv : Journal.initial.verbosity.admits .minimal := by decide
  refine ⟨?_, ?_⟩
  · obtain ⟨f, j', hrun, -, hquiet, -⟩ :=
      simplified_announces_nonfinite infiniteSum htexts.1 (m := 8) (by decide) hv
    have hsilent : (simplified (.int 8) infiniteSum).emitted .initial = [] := by decide +kernel
    refine ⟨f, j', hrun, hquiet ?_⟩
    simp [hsilent]
  · obtain ⟨f, j', hrun, -, -, hvalid⟩ :=
      simplified_announces_nonfinite poleSum htexts.2 (m := 8) (by decide) hv
    have hproblems : poleSum.problems = [] := by decide +kernel
    have hresult : f.problems ≠ [] := by
      obtain ⟨rs, hemits, -⟩ := exists_simplified_emits htexts.2
      have hpass := hemits 8 (by decide) .initial
      rw [hrun] at hpass
      cases hpass
      decide +kernel
    exact ⟨f, j', hrun, hresult, (hvalid hproblems).resolve_left hresult⟩

end Expression

end Formulae
