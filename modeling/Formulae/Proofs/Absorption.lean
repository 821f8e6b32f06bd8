import Formulae.Expression
import Formulae.Formula.Traversal
import Formulae.Proofs.Double.Neutral
import Formulae.Proofs.Redex

/-! Zero and one in formulae over doubles. Whatever a formula is simplified to, adding zero to it,
multiplying or dividing it by one and a plus sign leave the same. Multiplying it by zero and
subtracting it from itself leave zero, unless it is simplified to an infinite or undefined constant:
constants are folded before any law is looked at. -/
namespace Formulae.Formula
open Number.Double

section Laws

variable {ν α : Type} {s : Formula ν α}

theorem eq_const_or (s : Formula ν α) : (∃ a, s = const a) ∨ s.constant? = none := by
  cases s with
  | const a => exact .inl ⟨a, rfl⟩
  | _ => exact .inr rfl

theorem fold?_left (h : s.constant? = none) (t : Formula ν α) : fold? s t = none := by
  cases s with
  | const a => cases h
  | _ => rfl

theorem fold?_right (h : s.constant? = none) (t : Formula ν α) : fold? t s = none := by
  cases s with
  | const a => cases h
  | _ => cases t <;> rfl

variable [Arithmetic α] [BEq ν]

omit [BEq ν] in
theorem isValue_of_constant? (h : s.constant? = none) (a : α) : s.isValue a = false := by
  cases s with
  | const b => cases h
  | _ => rfl

theorem combine_of_law? {op : BinaryOp} {l r : Formula ν α} {rule : Rule α}
    (hfold : fold? l r = none) (h : law? op l r = some rule) :
    combine op l r = outcome op l r rule := by
  unfold combine rule?
  rw [hfold, h]
  rfl

end Laws

variable {ν : Type} {e s l r : Formula ν Float} {op : BinaryOp}

/-- The operations that have `e` for one operand and a neutral element for the other. -/
inductive Neutral (e : Formula ν Float) : BinaryOp → Formula ν Float → Formula ν Float → Prop where
  | zeroAdd : Neutral e .add (const 0.0) e
  | addZero : Neutral e .add e (const 0.0)
  | oneMul : Neutral e .mul (const 1.0) e
  | mulOne : Neutral e .mul e (const 1.0)
  | divOne : Neutral e .div e (const 1.0)

inductive Absorbing (e : Formula ν Float) :
    BinaryOp → Formula ν Float → Formula ν Float → Prop where
  | zeroMul : Absorbing e .mul (const 0.0) e
  | mulZero : Absorbing e .mul e (const 0.0)
  | cancel : Absorbing e .sub e e

def NonFinite (e : Formula ν Float) : Prop := ∃ a, e = const a ∧ ¬Arithmetic.isFinite a

variable [BEq ν]

theorem Neutral.pass (h : Neutral e op l r) : Neutral e.pass op l.pass r.pass := by
  cases h with
  | zeroAdd => exact .zeroAdd
  | addZero => exact .addZero
  | oneMul => exact .oneMul
  | mulOne => exact .mulOne
  | divOne => exact .divOne

theorem Absorbing.pass (h : Absorbing e op l r) : Absorbing e.pass op l.pass r.pass := by
  cases h with
  | zeroMul => exact .zeroMul
  | mulZero => exact .mulZero
  | cancel => exact .cancel

theorem Neutral.exists_law? (h : Neutral s op l r) (hs : s.constant? = none) :
    ∃ rule, law? op l r = some rule ∧ outcome op l r rule = s := by
  have hvalue := isValue_of_constant? hs
  cases h with
  | zeroAdd => exact ⟨.zeroAdd, rfl, rfl⟩
  | addZero =>
    refine ⟨.addZero, ?_, rfl⟩
    simp only [law?, hvalue]
    rfl
  | oneMul =>
    refine ⟨.oneMul, ?_, rfl⟩
    simp only [law?, hvalue]
    rfl
  | mulOne =>
    refine ⟨.mulOne, ?_, rfl⟩
    simp only [law?, hvalue]
    rfl
  | divOne => exact ⟨.divOne, rfl, rfl⟩

variable [ReflBEq ν]

theorem Neutral.combine_beq (h : Neutral s op l r) : combine op l r == s := by
  -- With a constant the operation is folded before its law is tried, and may lose a sign of zero:
  -- equality is all that can be had.
  rcases eq_const_or s with ⟨a, rfl⟩ | hs
  · obtain ⟨hmul, hmul', hdiv⟩ := one_same a
    cases h with
    | zeroAdd => exact zero_add_same a
    | addZero => exact add_zero_same a
    | oneMul => exact hmul'
    | mulOne => exact hmul
    | divOne => exact hdiv
  · have hfold : fold? l r = none := by
      cases h with
      | zeroAdd | oneMul => exact fold?_right hs _
      | addZero | mulOne | divOne => exact fold?_left hs _
    obtain ⟨rule, hlaw, hout⟩ := h.exists_law? hs
    rw [combine_of_law? hfold hlaw, hout]
    exact (Alike.refl s).beq

theorem Absorbing.combine_of_constant? (h : Absorbing s op l r) (hs : s.constant? = none) :
    combine op l r = const 0.0 := by
  have hvalue := isValue_of_constant? hs
  cases h with
  | zeroMul =>
    have hlaw : law? .mul (const 0.0) s = some .absorb := rfl
    exact combine_of_law? (fold?_right hs _) hlaw
  | mulZero =>
    have hlaw : law? .mul s (const 0.0) = some .absorb := by
      simp only [law?, hvalue]
      rfl
    exact combine_of_law? (fold?_left hs _) hlaw
  | cancel =>
    have hlaw : law? .sub s s = some .cancel := by
      rw [law?, if_pos (Alike.refl s).beq]
    exact combine_of_law? (fold?_left hs _) hlaw

omit [ReflBEq ν] in
/-- What is folded is a zero, or undefined with an operand that is not finite. -/
theorem Absorbing.combine_const {a : Float} (h : Absorbing (const a : Formula ν Float) op l r) :
    ∃ b, combine op l r = const b ∧ (Arithmetic.isFinite a → sameConstant b 0.0) ∧
      (¬Arithmetic.isFinite a → b = undefined) := by
  have hzero (ha : Arithmetic.isFinite a) := absorbed_of_isFinite ha
  have hundefined (ha : ¬Arithmetic.isFinite a) := absorbed_of_not_isFinite ha
  cases h with
  | zeroMul => exact ⟨0.0 * a, rfl, fun ha => (hzero ha).2.1, fun ha => (hundefined ha).2.1⟩
  | mulZero => exact ⟨a * 0.0, rfl, fun ha => (hzero ha).1, fun ha => (hundefined ha).1⟩
  | cancel => exact ⟨a - a, rfl, fun ha => (hzero ha).2.2, fun ha => (hundefined ha).2.2⟩

theorem Absorbing.combine_cases (h : Absorbing s op l r) :
    (¬s.NonFinite ∧ combine op l r == const 0.0) ∨
      (s.NonFinite ∧ combine op l r == const undefined) := by
  rcases eq_const_or s with ⟨a, rfl⟩ | hs
  · obtain ⟨b, hb, hzero, hundefined⟩ := h.combine_const
    rw [hb]
    by_cases ha : Arithmetic.isFinite a
    · refine .inl ⟨?_, hzero ha⟩
      rintro ⟨c, hc, hinfinite⟩
      cases hc
      exact hinfinite ha
    · rw [hundefined ha]
      exact .inr ⟨⟨a, rfl, ha⟩, (Alike.refl _).beq⟩
  · rw [h.combine_of_constant? hs]
    refine .inl ⟨?_, (Alike.refl _).beq⟩
    rintro ⟨c, rfl, -⟩
    cases hs

omit [ReflBEq ν] in
theorem not_beq_undefined_of_beq_zero (h : s == const 0.0) : ¬s == const undefined := by
  cases s with
  | const a =>
    intro hundefined
    have hsame := sameConstant_trans (sameConstant_symm h) hundefined
    exact absurd hsame (by decide +kernel)
  | _ => cases h

/-- A neutral element, or a plus sign, does not change what a formula is simplified to. Times zero,
or less itself, a formula is simplified to zero, except exactly when it is itself simplified to an
infinite or undefined constant: then it is to the undefined one. -/
theorem simplify_neutral_and_absorbing (e : Formula ν Float) (limit : Nat) :
    (∀ {op l r}, Neutral e op l r → (binary op l r).simplify limit == e.simplify limit) ∧
    (sign .plus e).simplify limit == e.simplify limit ∧
    ∀ {op l r}, Absorbing e op l r →
      ((binary op l r).simplify limit == const 0.0 ↔ ¬(e.simplify limit).NonFinite) ∧
      ((binary op l r).simplify limit == const undefined ↔ (e.simplify limit).NonFinite) := by
  simp only [simplify_eq_pass]
  refine ⟨fun h => h.pass.combine_beq, (Alike.refl e.pass).beq, fun h => ?_⟩
  rcases h.pass.combine_cases with ⟨hfinite, hzero⟩ | ⟨hinfinite, hundefined⟩
  · exact ⟨iff_of_true hzero hfinite,
      iff_of_false (not_beq_undefined_of_beq_zero hzero) hfinite⟩
  · refine ⟨iff_of_false ?_ (not_not_intro hinfinite), iff_of_true hundefined hinfinite⟩
    exact fun hzero => not_beq_undefined_of_beq_zero hzero hundefined

def poleProduct : Expression :=
  binary .mul (binary .div (const 1.0) (const 0.0)) (sign .plus (const 2.0))

def undefinedSine : Expression :=
  apply .sin (binary .add (var (.text "x")) (const undefined))

theorem poleProduct_and_undefinedSine_simplify :
    (binary .mul (const 1.0) poleProduct).simplify 8 == poleProduct.simplify 8 ∧
    (binary .mul (const 0.0) poleProduct).simplify 8 == (const undefined : Expression) ∧
    (binary .sub undefinedSine undefinedSine).simplify 8 == (const 0.0 : Expression) := by
  obtain ⟨hneutral, -, habsorbing⟩ := simplify_neutral_and_absorbing poleProduct 8
  obtain ⟨-, -, hcancel⟩ := simplify_neutral_and_absorbing undefinedSine 8
  refine ⟨hneutral .oneMul, (habsorbing .zeroMul).2.2 ?_, (hcancel .cancel).1.2 ?_⟩
  · rw [simplify_eq_pass]
    exact ⟨infinity .positive, rfl, by decide +kernel⟩
  · rw [simplify_eq_pass]
    rintro ⟨a, h, -⟩
    cases h

end Formulae.Formula
