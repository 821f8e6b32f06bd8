import Formulae.Expression
import Formulae.Formula.Traversal

/-! Which formulae have a text. Only a name without one keeps a formula from having a text, and only
a whole number of too many digits, be it alone, in a fraction or in a list, keeps a name from it. -/
namespace Formulae

theorem bind_eq_error {ε β γ : Type} {x : Except ε β} {f : β → Except ε γ} {w : ε} :
    x >>= f = .error w ↔ x = .error w ∨ ∃ b, x = .ok b ∧ f b = .error w := by
  cases x <;> simp [bind, Except.bind]

/-- The only failure is that of a whole number of too many digits, and it is there when `p`
holds. -/
def FailsWhen {β : Type} (x : Except ValueFault β) (p : Prop) : Prop :=
  ∀ why, x = .error why ↔ p ∧ .tooManyDigits = why

namespace FailsWhen

variable {β γ : Type} {x : Except ValueFault β} {f : β → Except ValueFault γ} {p q : Prop}

theorem ok (b : β) : FailsWhen (.ok b) False := fun _ => iff_of_false nofun fun h => h.1

theorem integerText? (z : Int) :
    FailsWhen (Formulae.integerText? z) (digitBound ≤ z.natAbs) := by
  intro why
  rw [Formulae.integerText?]
  by_cases h : z.natAbs < digitBound
  · rw [if_pos h]
    exact iff_of_false nofun fun hlong => Nat.not_le.2 h hlong.1
  · rw [if_neg h, Except.error.injEq, and_iff_right (Nat.not_lt.1 h)]

theorem congr (h : FailsWhen x p) (hpq : p ↔ q) : FailsWhen x q :=
  fun why => (h why).trans (and_congr_left fun _ => hpq)

theorem bind (hx : FailsWhen x p) (hf : ∀ b, FailsWhen (f b) q) : FailsWhen (x >>= f) (p ∨ q) := by
  intro why
  rw [bind_eq_error, hx, or_and_right]
  cases x with
  | ok b =>
    have hp : ¬p := fun hp => nomatch (hx .tooManyDigits).2 ⟨hp, rfl⟩
    simp [hp, hf b why]
  | error w =>
    have hp : p := ((hx w).1 rfl).1
    simp [hp, or_iff_left_of_imp fun h : q ∧ _ => h.2]

theorem map (hx : FailsWhen x p) (g : β → γ) : FailsWhen (do return g (← x)) p :=
  (hx.bind fun b => ok (g b)).congr (or_iff_left id)

theorem mapM {p : β → Prop} {f : β → Except ValueFault γ} (hf : ∀ b, FailsWhen (f b) (p b))
    (bs : List β) : FailsWhen (bs.mapM f) (∃ b ∈ bs, p b) := by
  induction bs with
  | nil =>
    rw [List.mapM_nil]
    exact (ok _).congr (by simp)
  | cons b bs ih =>
    rw [List.mapM_cons]
    exact ((hf b).bind fun c => ih.map _).congr (by simp)

end FailsWhen

namespace Literal

/-- The value holds a whole number of more digits than are written. -/
inductive Overlong : Literal → Prop where
  | int {z : Int} (h : digitBound ≤ z.natAbs) : Overlong (int z)
  | named {family name : String} {z : Int} (h : digitBound ≤ z.natAbs) :
      Overlong (named family name z)
  | num {r : Rat} (h : digitBound ≤ r.num.natAbs) : Overlong (fraction r)
  | den {r : Rat} (h : digitBound ≤ r.den) : Overlong (fraction r)
  | item {items : List Literal} {v : Literal} (hv : v ∈ items) (h : Overlong v) :
      Overlong (list items)

theorem overlong_digitBound : (int digitBound).Overlong :=
  .int (Nat.le_of_eq (Int.natAbs_natCast digitBound).symm)

theorem overlong_fraction {r : Rat} : (fraction r).Overlong ↔
    digitBound ≤ r.num.natAbs ∨ digitBound ≤ r.den := by
  constructor
  · intro h
    cases h with
    | num h => exact .inl h
    | den h => exact .inr h
  · exact fun h => h.elim .num .den

theorem overlong_list {items : List Literal} :
    (list items).Overlong ↔ ∃ v ∈ items, v.Overlong := by
  constructor
  · rintro ⟨⟩
    exact ⟨_, ‹_›, ‹_›⟩
  · exact fun ⟨v, hv, h⟩ => .item hv h

mutual

theorem failsWhen_quoted (v : Literal) : FailsWhen v.quoted v.Overlong := by
  cases v with
  | int z =>
    rw [quoted]
    exact (FailsWhen.integerText? z).congr ⟨.int, fun | .int h => h⟩
  | named family name z =>
    rw [quoted]
    exact ((FailsWhen.integerText? z).map _).congr ⟨.named, fun | .named h => h⟩
  | fraction r =>
    rw [quoted]
    refine ((FailsWhen.integerText? r.num).bind fun num =>
      (FailsWhen.integerText? r.den).map _).congr ?_
    exact overlong_fraction.symm
  | list items =>
    rw [quoted]
    have hitems := failsWhen_quotedAll items
    exact (hitems.map _).congr overlong_list.symm
  | _ => exact (FailsWhen.ok _).congr ⟨False.elim, nofun⟩

theorem failsWhen_quotedAll (vs : List Literal) :
    FailsWhen (quoted.quotedAll vs) (∃ v ∈ vs, v.Overlong) := by
  cases vs with
  | nil => exact (FailsWhen.ok _).congr (by simp)
  | cons v vs =>
    rw [quoted.quotedAll]
    refine ((failsWhen_quoted v).bind fun text => (failsWhen_quotedAll vs).map _).congr ?_
    simp

end

theorem failsWhen_label (v : Literal) : FailsWhen v.label v.Overlong := by
  cases v with
  | named family name z =>
    exact (FailsWhen.integerText? z).congr ⟨.named, fun | .named h => h⟩
  | fraction r =>
    rw [label, fractionText]
    refine (FailsWhen.congr ((FailsWhen.integerText? r.num).bind fun num => ?_)
      overlong_fraction.symm)
    by_cases hden : r.den = 1
    · have hshort : ¬digitBound ≤ r.den := by
        rw [hden]
        decide +kernel
      rw [if_pos hden]
      exact (FailsWhen.ok _).congr (iff_of_false id hshort)
    · rw [if_neg hden]
      exact (FailsWhen.integerText? r.den).map _
  | decimal | text => exact (FailsWhen.ok _).congr ⟨False.elim, nofun⟩
  | _ => exact failsWhen_quoted _

end Literal

theorem Name.failsWhen_label (x : Name) : FailsWhen (Naming.label x) x.toLiteral.Overlong :=
  x.toLiteral.failsWhen_label

theorem Name.failsWhen_quoted (x : Name) : FailsWhen (Naming.quoted x) x.toLiteral.Overlong :=
  x.toLiteral.failsWhen_quoted

namespace Formula

variable {ν α : Type} [Naming ν] {e : Formula ν α} {x : ν} {why : ValueFault}

/-- The formula has no text of its own, be it that it is a variable and its name is no text, or that
a name within it has none. -/
inductive Untold : Formula ν α → TextFault → Prop where
  | odd {x : ν} {name : OddName} (h : Naming.odd? x = some name) : Untold (var x) (.odd name)
  | part {e : Formula ν α} {x : ν} {why : ValueFault} (hlone : ∀ y, e ≠ var y)
      (hx : var x ∈ e.depthFirst) (h : Naming.label x = .error why) : Untold e (.value why)

variable [Arithmetic α] [Written α]

theorem exists_label_eq_error (h : e.render = .error why) :
    ∃ x, var x ∈ e.depthFirst ∧ Naming.label x = .error why := by
  induction e with
  | const a => cases h
  | var x => exact ⟨x, List.mem_cons_self, h⟩
  | sign s e ih | apply f e ih =>
    obtain ⟨x, hx, hlabel⟩ := ih ((bind_eq_error.1 h).resolve_right nofun)
    exact ⟨x, List.mem_cons_of_mem _ hx, hlabel⟩
  | binary op l r ihl ihr =>
    rcases bind_eq_error.1 h with hl | ⟨s, -, hrest⟩
    · obtain ⟨x, hx, hlabel⟩ := ihl hl
      exact ⟨x, mem_depthFirst_left hx, hlabel⟩
    · obtain ⟨x, hx, hlabel⟩ := ihr ((bind_eq_error.1 hrest).resolve_right nofun)
      exact ⟨x, mem_depthFirst_right hx, hlabel⟩

theorem exists_render_eq_error (hx : var x ∈ e.depthFirst) (h : Naming.label x = .error why) :
    ∃ why', e.render = .error why' := by
  induction e with
  | const a => cases List.mem_singleton.1 hx
  | var y =>
    cases List.mem_singleton.1 hx
    exact ⟨why, h⟩
  | sign s e ih | apply f e ih =>
    obtain ⟨why', he⟩ := ih ((List.mem_cons.1 hx).resolve_left nofun)
    exact ⟨why', bind_eq_error.2 (.inl he)⟩
  | binary op l r ihl ihr =>
    cases hl : l.render with
    | error why' => exact ⟨why', bind_eq_error.2 (.inl hl)⟩
    | ok s =>
      rcases List.mem_append.1 ((List.mem_cons.1 hx).resolve_left nofun) with hxl | hxr
      · obtain ⟨why', herror⟩ := ihl hxl
        cases hl.symm.trans herror
      · obtain ⟨why', hr⟩ := ihr hxr
        exact ⟨why', bind_eq_error.2 (.inr ⟨s, hl, bind_eq_error.2 (.inl hr)⟩)⟩

theorem render_isOk (h : ∀ x, var x ∈ e.depthFirst → ∃ s, Naming.label x = .ok s) :
    ∃ s, e.render = .ok s := by
  cases he : e.render with
  | ok s => exact ⟨s, rfl⟩
  | error why =>
    obtain ⟨x, hx, hlabel⟩ := exists_label_eq_error he
    obtain ⟨s, hs⟩ := h x hx
    cases hlabel.symm.trans hs

theorem untold_of_text? {why : TextFault} (h : e.text? = .error why) : e.Untold why := by
  have part (hlone : ∀ y, e ≠ var y) (h : e.render.mapError .value = .error why) :
      e.Untold why := by
    cases he : e.render with
    | ok s =>
      rw [he] at h
      cases h
    | error w =>
      rw [he] at h
      cases h
      obtain ⟨x, hx, hlabel⟩ := exists_label_eq_error he
      exact .part hlone hx hlabel
  cases e with
  | var x =>
    rw [text?] at h
    cases hodd : Naming.odd? x with
    | some name =>
      rw [hodd] at h
      cases h
      exact .odd hodd
    | none =>
      obtain ⟨s, hs⟩ := Naming.label_isOk hodd
      rw [hodd, hs] at h
      cases h
  | _ => exact part nofun h

theorem Untold.exists_text?_eq_error {why : TextFault} (h : e.Untold why) :
    ∃ why', e.text? = .error why' := by
  cases h with
  | odd hodd => exact ⟨_, by rw [text?, hodd]⟩
  | part hlone hx hlabel =>
    obtain ⟨w, hw⟩ := exists_render_eq_error hx hlabel
    cases e with
    | var y => exact absurd rfl (hlone y)
    | _ => exact ⟨.value w, congrArg (Except.mapError TextFault.value) hw⟩

end Formula

end Formulae
