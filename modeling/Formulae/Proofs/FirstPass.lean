import Mathlib.Logic.Function.Iterate
import Formulae.Proofs.Emission
import Formulae.Proofs.Remnant
import Formulae.Proofs.Texts

/-! The first pass does all that simplification does. What it leaves has no redex, so later passes
change nothing, fire no rule and are never heard of in the journal: every limit gives the same
formula and the same records, and simplifying the result once more is silent. -/
namespace Formulae

namespace Formula

variable {ν α : Type}

theorem iterate_pass [BEq ν] [Arithmetic α] (e : Formula ν α) (i : Nat) :
    pass^[i + 1] e = e.pass :=
  Function.iterate_fixed (pass_pass e) i

section Names

variable [Naming ν]

def HasTexts (e : Formula ν α) : Prop := ∀ x, var x ∈ e.depthFirst → Naming.odd? x = none

theorem hasTexts_const (a : α) : (const a : Formula ν α).HasTexts := by
  intro x hx
  cases List.mem_singleton.1 hx

theorem hasTexts_var {x : ν} : (var x : Formula ν α).HasTexts ↔ Naming.odd? x = none := by
  simp [HasTexts, depthFirst]

theorem hasTexts_sign {s : Sign} {e : Formula ν α} : (sign s e).HasTexts ↔ e.HasTexts := by
  simp [HasTexts, depthFirst]

theorem hasTexts_apply {f : Elementary} {e : Formula ν α} :
    (apply f e).HasTexts ↔ e.HasTexts := by
  simp [HasTexts, depthFirst]

theorem hasTexts_binary {op : BinaryOp} {l r : Formula ν α} :
    (binary op l r).HasTexts ↔ l.HasTexts ∧ r.HasTexts := by
  simp [HasTexts, depthFirst, or_imp, forall_and]

variable [Arithmetic α]

theorem HasTexts.text? [Written α] {e : Formula ν α} (h : e.HasTexts) : ∃ s, e.text? = .ok s := by
  obtain ⟨s, hs⟩ := render_isOk fun x hx => Naming.label_isOk (h x hx)
  cases e with
  | var x =>
    rw [Formula.render] at hs
    exact ⟨s, by rw [Formula.text?, hasTexts_var.1 h, hs]; rfl⟩
  | _ => exact ⟨s, congrArg (Except.mapError TextFault.value) hs⟩

variable [BEq ν]

theorem HasTexts.pass {e : Formula ν α} (h : e.HasTexts) : e.pass.HasTexts :=
  fun x hx => h x ((remnant_pass e).mem_var hx)

theorem HasTexts.firings {e : Formula ν α} (h : e.HasTexts) {w : Firing ν α} (hw : w ∈ e.firings) :
    w.left.HasTexts ∧ w.right.HasTexts := by
  induction e with
  | const | var => cases hw
  | sign s e ih => exact ih (hasTexts_sign.1 h) hw
  | apply f e ih => exact ih (hasTexts_apply.1 h) hw
  | binary op l r ihl ihr =>
    obtain ⟨hl, hr⟩ := hasTexts_binary.1 h
    rw [Formula.firings, List.mem_append, List.mem_append, Option.mem_toList] at hw
    rcases hw with (hwl | hwr) | hhere
    · exact ihl hl hwl
    · exact ihr hr hwr
    · obtain ⟨rule, -, rfl⟩ := Option.map_eq_some_iff.1 hhere
      exact ⟨hl.pass, hr.pass⟩

end Names

end Formula

theorem Firing.records_isOk {ν α : Type} [Naming ν] [Arithmetic α] [Written α] {w : Firing ν α}
    (hl : w.left.HasTexts) (hr : w.right.HasTexts) : ∃ rs, w.records = .ok rs := by
  obtain ⟨left, hleft⟩ := hl.text?
  obtain ⟨right, hright⟩ := hr.text?
  unfold records
  split
  · dsimp only
    split
    · exact ⟨_, rfl⟩
    · exact ⟨_, rfl⟩
  all_goals
    simp only [records.kept, hleft, hright]
    exact ⟨_, rfl⟩

namespace Expression

theorem reportAll_isOk {fired : List (Firing Name Float)}
    (h : ∀ w ∈ fired, ∃ rs, w.records = .ok rs) (j : Journal) :
    ∃ j', (reportAll fired).runIn j = (.ok (), j') := by
  obtain ⟨rs, hemits, -⟩ := exists_reportAll_emits h
  exact ⟨_, hemits j⟩

theorem passLimit_int {m : Int} (h : 1 ≤ m) :
    PassLimit.ofLiteral (.int m) = .ok (.passes m.toNat) := by
  have hbefore : (Literal.int m).before (.int 1) = false := by
    simp only [Literal.before, Literal.real?, Literal.parts?, Option.map_some, Extended.less,
      decide_eq_false_iff_not]
    exact_mod_cast Int.not_lt.2 h
  simp only [PassLimit.ofLiteral, hbefore]
  rfl

theorem simplified_int {m : Int} (h : 1 ≤ m) (e : Expression) {j j' : Journal}
    (hreport : (reportAll e.firings).runIn j = (.ok (), j')) :
    (simplified (.int m) e).runIn j = (.ok e.pass, j') := by
  rw [simplified, passLimit_int h]
  simp only [Formula.simplification_eq]
  rw [Logged.runIn_bind_of_ok hreport]
  rfl

theorem exists_simplified_emits {e : Expression} (h : e.HasTexts) :
    ∃ rs, (∀ m : Int, 1 ≤ m → (simplified (.int m) e).Emits e.pass rs) ∧
      ∀ r, r ∈ rs ↔ ∃ w ∈ e.firings, ∃ ws, w.records = .ok ws ∧ r ∈ ws := by
  have hrecords : ∀ w ∈ e.firings, ∃ ws, w.records = .ok ws := fun w hw =>
    w.records_isOk (h.firings hw).1 (h.firings hw).2
  obtain ⟨rs, hemits, hmem⟩ := exists_reportAll_emits hrecords
  exact ⟨rs, fun m hm j => simplified_int hm e (hemits j), hmem⟩

/-- For all limits, simplification returns the result of the first pass and reports what fired in
it. Every later pass returns the same formula and fires nothing, and so does simplifying the result
again, under any limit, which leaves the journal as it is. -/
theorem simplified_settles (e : Expression) (h : e.HasTexts) :
    (∀ j, ∃ j', (reportAll e.firings).runIn j = (.ok (), j') ∧
      ∀ m : Int, 1 ≤ m → (simplified (.int m) e).runIn j = (.ok e.pass, j')) ∧
    (∀ i, Formula.pass^[i + 1] e = e.pass ∧ (Formula.pass^[i + 1] e).firings = []) ∧
    ∀ m : Int, 1 ≤ m → ∀ j, (simplified (.int m) e.pass).runIn j = (.ok e.pass, j) := by
  have hfree := Formula.pass_redexFree e
  have hquiet : e.pass.firings = [] := Formula.firings_of_redexFree hfree
  refine ⟨fun j => ?_, fun i => ?_, fun m hm j => ?_⟩
  · have hrecords : ∀ w ∈ e.firings, ∃ rs, w.records = .ok rs := fun w hw =>
      w.records_isOk (h.firings hw).1 (h.firings hw).2
    obtain ⟨j', hj'⟩ := reportAll_isOk hrecords j
    exact ⟨j', hj', fun m hm => simplified_int hm e hj'⟩
  · rw [Formula.iterate_pass]
    exact ⟨rfl, hquiet⟩
  · have hreport : (reportAll e.pass.firings).runIn j = (.ok (), j) := by
      rw [hquiet]
      rfl
    rw [simplified_int hm e.pass hreport, Formula.pass_of_redexFree hfree]

def signedZero : Expression :=
  .binary .sub (.binary .mul (.const 0.0) (.const (-1.0))) (.sign .plus (.var (.text "x")))

theorem signedZero_settles : signedZero.HasTexts ∧ ∀ m : Int, 1 ≤ m → ∃ j,
    (simplified (.int m) signedZero).runIn .initial =
      (.ok (.binary .sub (.const (-0.0)) (.var (.text "x"))), j) ∧
    (simplified (.int m) (.binary .sub (.const (-0.0)) (.var (.text "x")))).runIn j =
      (.ok (.binary .sub (.const (-0.0)) (.var (.text "x"))), j) := by
  have h : signedZero.HasTexts := Formula.hasTexts_binary.2
    ⟨Formula.hasTexts_binary.2 ⟨Formula.hasTexts_const _, Formula.hasTexts_const _⟩,
      Formula.hasTexts_sign.2 (Formula.hasTexts_var.2 rfl)⟩
  have hpass : signedZero.pass = .binary .sub (.const (-0.0)) (.var (.text "x")) := by
    simp only [signedZero, Formula.pass]
    rfl
  refine ⟨h, fun m hm => ?_⟩
  obtain ⟨hfirst, -, hagain⟩ := simplified_settles signedZero h
  obtain ⟨j, -, hj⟩ := hfirst .initial
  rw [← hpass]
  exact ⟨j, hj m hm, hagain m hm j⟩

end Expression

end Formulae
