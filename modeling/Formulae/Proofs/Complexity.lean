import Mathlib.Algebra.Order.Field.Rat
import Formulae.Formula.Complexity
import Formulae.Proofs.Remnant

/-! Deleting nodes never makes a formula more complex. It brings a node and a distant operand
together, which may cost a penalty that was not there; but no penalty is larger than the least
weight, so the weight of a node that goes pays for it. -/
namespace Formulae

namespace Head

theorem penalty_le_weight (parent child h : Head) : parent.penalty child ≤ h.weight := by
  have hpenalty : ∀ p ∈ all, ∀ c ∈ all, p.penalty c ≤ 5 := by decide
  have hweight : ∀ h ∈ all, 5 ≤ h.weight := by decide
  exact (hpenalty parent (mem_all parent) child (mem_all child)).trans (hweight h (mem_all h))

theorem penalty_const (h : Head) : h.penalty const = 0 ∧ const.penalty h = 0 := by
  have hall : ∀ h ∈ all, h.penalty const = 0 ∧ const.penalty h = 0 := by decide
  exact hall h (mem_all h)

theorem weight_const_le (op : BinaryOp) : const.weight ≤ (binary op).weight := by
  cases op <;> decide

end Head

theorem tenths_eq (n : Nat) : (tenths n : ℚ) = n / 10 := by
  have h : (tenths n : ℚ) = Rat.ofScientific n true 1 := rfl
  rw [h, Rat.ofScientific_true_def, Rat.mkRat_eq_div]
  rfl

theorem tenths_add (m n : Nat) : (tenths (m + n) : ℚ) = tenths m + tenths n := by
  rw [tenths_eq, tenths_eq, tenths_eq, Nat.cast_add, add_div]

theorem tenths_le_tenths {m n : Nat} (h : m ≤ n) : (tenths m : ℚ) ≤ tenths n := by
  rw [tenths_eq, tenths_eq]
  exact div_le_div_of_nonneg_right (Nat.cast_le.2 h) (by decide)

namespace Formula

variable {ν α : Type}

def cost : Formula ν α → Nat
  | const _ => Head.const.weight
  | var _ => Head.var.weight
  | sign s e => (Head.sign s).weight + e.cost + (Head.sign s).penalty e.head
  | apply f e => (Head.apply f).weight + e.cost + (Head.apply f).penalty e.head
  | binary op l r =>
    (Head.binary op).weight + l.cost + (Head.binary op).penalty l.head + r.cost +
      (Head.binary op).penalty r.head

theorem complexity_eq_tenths (e : Formula ν α) : e.complexity ℚ = tenths e.cost := by
  induction e with
  | const | var => rfl
  | sign s e ih | apply f e ih =>
    rw [complexity, complexity.under, cost, tenths_add, tenths_add, ih]
  | binary op l r ihl ihr =>
    rw [complexity, complexity.under, complexity.under, cost, tenths_add, tenths_add, tenths_add,
      tenths_add, ihl, ihr]

/-- Under any parent, what is left of a formula costs no more than the formula, the penalties of
both included. -/
theorem Remnant.cost_add_penalty_le {f e : Formula ν α} (h : Remnant f e) (parent : Head) :
    f.cost + parent.penalty f.head ≤ e.cost + parent.penalty e.head := by
  induction h generalizing parent with
  | refl => exact Nat.le_refl _
  | const a op l r =>
    have := Head.weight_const_le op
    have := parent.penalty_const.1
    simp only [cost, head_const, head_binary]
    omega
  | @operand s f e _ ih =>
    have := ih parent
    have := parent.penalty_le_weight e.head (.sign s)
    simp only [cost, head_sign]
    omega
  | @left op f l r _ ih =>
    have := ih parent
    have := parent.penalty_le_weight l.head (.binary op)
    simp only [cost, head_binary]
    omega
  | @right op f r l _ ih =>
    have := ih parent
    have := parent.penalty_le_weight r.head (.binary op)
    simp only [cost, head_binary]
    omega
  | sign s _ ih =>
    have := ih (.sign s)
    simp only [cost, head_sign]
    omega
  | apply g _ ih =>
    have := ih (.apply g)
    simp only [cost, head_apply]
    omega
  | binary op _ _ ihl ihr =>
    have := ihl (.binary op)
    have := ihr (.binary op)
    simp only [cost, head_binary]
    omega

theorem Remnant.cost_le {f e : Formula ν α} (h : Remnant f e) : f.cost ≤ e.cost := by
  have hunder := h.cost_add_penalty_le .const
  rwa [f.head.penalty_const.2, e.head.penalty_const.2] at hunder

/-- Simplification never makes a formula more complex. -/
theorem complexity_simplify_le [Arithmetic α] [BEq ν] (e : Formula ν α) (limit : Nat) :
    (e.simplify limit).complexity ℚ ≤ e.complexity ℚ := by
  rw [simplify_eq_pass, complexity_eq_tenths, complexity_eq_tenths]
  exact tenths_le_tenths (remnant_pass e).cost_le

/-- Without its plus sign the tangent stands over the cotangent, which costs just as much. -/
example : (apply .tan (sign .plus (apply .cot (var "x"))) : Formula String Float).pass.cost =
    (apply .tan (sign .plus (apply .cot (var "x"))) : Formula String Float).cost := rfl

end Formula

end Formulae
