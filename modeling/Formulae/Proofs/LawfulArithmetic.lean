import Formulae.Formula.Equality
import Formulae.Formula.Operation

/-! The laws of arithmetic that results about values rest on. They hold of numbers with signed
zeros, infinities and rounding: neutral elements only have to give an equal number, and operations
only have to respect equality where their result is finite. -/
namespace Formulae
open Arithmetic

/-- An arithmetic that compares by value and has neutral and absorbing elements. -/
class LawfulArithmetic (α : Type) [Arithmetic α] : Prop where
  beq_symm {a b : α} : a == b → b == a
  beq_trans {a b c : α} : a == b → b == c → a == c
  rational_congr {a b : α} : a == b → rational? a = rational? b
  beq_of_rational {a b : α} {r : Rat} : rational? a = some r → rational? b = some r → a == b
  below_congr {a b : α} (c : α) : a == b → below a c = below b c
  add_zero {a : α} : isFinite a → a + 0 == a
  zero_add {a : α} : isFinite a → 0 + a == a
  sub_eq_zero {a b : α} : isFinite a → a == b → a - b == 0
  mul_one {a : α} : isFinite a → a * 1 == a
  one_mul {a : α} : isFinite a → 1 * a == a
  mul_zero {a : α} : isFinite a → a * 0 == 0
  zero_mul {a : α} : isFinite a → 0 * a == 0
  div_one {a : α} : isFinite a → a / 1 == a
  sign_congr (s : Sign) {a b : α} : a == b → isFinite (s.eval a) → s.eval a == s.eval b
  /-- No divisor is zero here. -/
  binary_congr (op : BinaryOp) {a b c d : α} : a == c → b == d → ¬(op = .div ∧ b == 0) →
    isFinite (op.eval a b) → op.eval a b == op.eval c d
  apply_congr (f : Elementary) {a b : α} : a == b → isFinite (f.eval a) → f.eval a == f.eval b

namespace LawfulArithmetic

variable {α : Type} [Arithmetic α] [LawfulArithmetic α] {a b : α}

theorem beq_refl (h : isFinite a) : a == a := by
  obtain ⟨r, hr⟩ := Option.isSome_iff_exists.1 h
  exact beq_of_rational hr hr

theorem isFinite_congr (h : a == b) (ha : isFinite a) : isFinite b := by
  unfold isFinite at ha ⊢
  rwa [← rational_congr h]

theorem beq_of_sameConstant (h : sameConstant a b) (ha : isFinite a) : a == b := by
  rcases Bool.or_eq_true_iff.1 h with heq | hundefined
  · exact heq
  · simp [isUndefined, beq_refl ha] at hundefined

end LawfulArithmetic

end Formulae
