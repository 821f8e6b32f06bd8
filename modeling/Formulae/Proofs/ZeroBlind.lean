import Formulae.Formula.Operation
import Formulae.Proofs.Equality

/-! What arithmetic makes of constants of one value. They are identical or zeros, and the sign of a
zero shows in nothing but the sign of another zero, unless a number is divided by it. -/
namespace Formulae
open Arithmetic

/-- A number other than zero is divided by a zero: the sign of the infinity tells that of the
divisor. -/
def BinaryOp.ShowsSign {α : Type} [Arithmetic α] (op : BinaryOp) (a b : α) : Prop :=
  op = .div ∧ b == 0 ∧ a == a ∧ ¬a == 0

/-- An arithmetic that tells the zeros apart by dividing by them alone. -/
class ZeroBlind (α : Type) [Arithmetic α] [Written α] : Prop extends PartialEquivBEq α where
  eq_of_sameConstant {a b : α} : sameConstant a b → ¬a == 0 → a = b
  not_below_zero {a : α} : a == 0 → ¬below a 0
  text_congr {a b : α} : sameConstant a b → Number.text a = Number.text b
  sign_congr (s : Sign) {a b : α} : sameConstant a b → sameConstant (s.eval a) (s.eval b)
  binary_congr (op : BinaryOp) {a b c d : α} : sameConstant a c → sameConstant b d →
    ¬op.ShowsSign a b → sameConstant (op.eval a b) (op.eval c d)
  apply_congr (f : Elementary) {a b : α} :
    f ≠ .cot → sameConstant a b → sameConstant (f.eval a) (f.eval b)

namespace ZeroBlind

variable {α : Type} [Arithmetic α] [Written α] [ZeroBlind α] {a b c d : α}

theorem below_zero_congr (h : sameConstant a b) : below a 0 = below b 0 := by
  by_cases ha : a == 0
  · have hb : b == 0 := (sameConstant_beq_left h 0).symm.trans ha
    rw [Bool.eq_false_iff.2 (not_below_zero ha), Bool.eq_false_iff.2 (not_below_zero hb)]
  · rw [eq_of_sameConstant h ha]

theorem eq_of_below_zero (h : sameConstant a b) (hneg : below a 0) : a = b :=
  eq_of_sameConstant h fun hz => not_below_zero hz hneg

theorem binary_congr_of_sign (op : BinaryOp) (h : sameConstant a c) (h' : sameConstant b d)
    (hsign : op.ShowsSign a b → b = d) : sameConstant (op.eval a b) (op.eval c d) := by
  by_cases hshows : op.ShowsSign a b
  · rw [hsign hshows, eq_of_sameConstant h hshows.2.2.2]
    exact sameConstant_refl _
  · exact binary_congr op h h' hshows

theorem apply_congr_of_sign (f : Elementary) (h : sameConstant a b)
    (hsign : f = .cot → a == 0 → a = b) : sameConstant (f.eval a) (f.eval b) := by
  by_cases hcot : f = .cot
  · have heq : a = b := by
      by_cases ha : a == 0
      · exact hsign hcot ha
      · exact eq_of_sameConstant h ha
    rw [heq]
    exact sameConstant_refl _
  · exact apply_congr f hcot h

end ZeroBlind

end Formulae
