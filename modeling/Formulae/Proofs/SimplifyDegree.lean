import Formulae.Proofs.Degree
import Formulae.Proofs.Remnant

/-! Deleting nodes keeps polynomials. As long as no root is taken, what deleting leaves of a
polynomial is one of no larger degree, and so is what it is simplified to. A root is the exception:
it asks for an even degree below it, which a smaller one need not be. -/
namespace Formulae

def BinaryOp.degree : BinaryOp → Nat → Nat → Nat
  | .add, m, k | .sub, m, k => max m k
  | .mul, m, k => m + k
  | .div, m, _ => m

theorem BinaryOp.degree_le_degree (op : BinaryOp) {m m' k k' : Nat} (hm : m' ≤ m) (hk : k' ≤ k) :
    op.degree m' k' ≤ op.degree m k := by
  cases op <;> (simp only [degree]; omega)

theorem BinaryOp.le_degree_left (op : BinaryOp) (m k : Nat) : m ≤ op.degree m k := by
  cases op <;> (simp only [degree]; omega)

theorem BinaryOp.le_degree_right {op : BinaryOp} (hop : op ≠ .div) (m k : Nat) :
    k ≤ op.degree m k := by
  cases op with
  | div => exact absurd rfl hop
  | _ => simp only [degree]; omega

namespace Formula

variable {ν α : Type} {e f l r : Formula ν α} {n : Nat}

theorem hasDegree_binary_iff {op : BinaryOp} : HasDegree (binary op l r) n ↔
    ∃ m k, HasDegree l m ∧ HasDegree r k ∧ (op = .div → r.isConstant) ∧ n = op.degree m k := by
  constructor
  · intro h
    cases h with
    | add hl hr | sub hl hr | mul hl hr => exact ⟨_, _, hl, hr, nofun, rfl⟩
    | div hl hr hconstant => exact ⟨_, _, hl, hr, fun _ => hconstant, rfl⟩
  · rintro ⟨m, k, hl, hr, hconstant, rfl⟩
    cases op with
    | add => exact .add hl hr
    | sub => exact .sub hl hr
    | mul => exact .mul hl hr
    | div => exact .div hl hr (hconstant rfl)

/-- Neither operand has a larger degree than the operation. A divisor does not count in it, but is
constant. -/
theorem HasDegree.operands_le {op : BinaryOp} (h : HasDegree (binary op l r) n) :
    ∃ m k, HasDegree l m ∧ HasDegree r k ∧ m ≤ n ∧ k ≤ n := by
  obtain ⟨m, k, hl, hr, hconstant, rfl⟩ := hasDegree_binary_iff.1 h
  refine ⟨m, k, hl, hr, op.le_degree_left m k, ?_⟩
  by_cases hop : op = .div
  · rw [hr.eq_zero_iff.2 (hconstant hop)]
    exact Nat.zero_le _
  · exact BinaryOp.le_degree_right hop m k

def Rootless (e : Formula ν α) : Prop := ∀ f, apply .sqrt f ∉ e.depthFirst

theorem rootless_sign {s : Sign} : (sign s e).Rootless ↔ e.Rootless := by
  simp [Rootless, depthFirst]

theorem rootless_binary {op : BinaryOp} :
    (binary op l r).Rootless ↔ l.Rootless ∧ r.Rootless := by
  simp [Rootless, depthFirst, forall_and]

theorem Remnant.isConstant (h : Remnant f e) (he : e.isConstant) : f.isConstant := by
  induction h with
  | refl => exact he
  | const => rfl
  | operand s _ ih | sign s _ ih | apply g _ ih => exact ih he
  | left op r _ ih => exact ih (Bool.and_eq_true_iff.1 he).1
  | right op l _ ih => exact ih (Bool.and_eq_true_iff.1 he).2
  | binary op _ _ ihl ihr =>
    obtain ⟨hl, hr⟩ := Bool.and_eq_true_iff.1 he
    exact Bool.and_eq_true_iff.2 ⟨ihl hl, ihr hr⟩

/-- What deleting leaves of a polynomial is a polynomial of no larger degree. -/
theorem Remnant.exists_hasDegree_le (h : Remnant f e) (hrootless : e.Rootless)
    (he : HasDegree e n) : ∃ m ≤ n, HasDegree f m := by
  induction h generalizing n with
  | refl => exact ⟨n, Nat.le_refl n, he⟩
  | const a => exact ⟨0, Nat.zero_le n, .const a⟩
  | operand s _ ih =>
    cases he with
    | sign _ he => exact ih (rootless_sign.1 hrootless) he
  | left op r _ ih =>
    obtain ⟨m, -, hl, -, hm, -⟩ := he.operands_le
    obtain ⟨m', hm', hf⟩ := ih (rootless_binary.1 hrootless).1 hl
    exact ⟨m', Nat.le_trans hm' hm, hf⟩
  | right op l _ ih =>
    obtain ⟨-, k, -, hr, -, hk⟩ := he.operands_le
    obtain ⟨k', hk', hf⟩ := ih (rootless_binary.1 hrootless).2 hr
    exact ⟨k', Nat.le_trans hk' hk, hf⟩
  | sign s _ ih =>
    cases he with
    | sign _ he =>
      obtain ⟨m, hm, hf⟩ := ih (rootless_sign.1 hrootless) he
      exact ⟨m, hm, .sign s hf⟩
  | apply g _ _ =>
    cases he with
    | sqrt _ => exact absurd List.mem_cons_self (hrootless _)
  | binary op _ hright ihl ihr =>
    obtain ⟨m, k, hl, hr, hconstant, rfl⟩ := hasDegree_binary_iff.1 he
    obtain ⟨hrootl, hrootr⟩ := rootless_binary.1 hrootless
    obtain ⟨m', hm, hfl⟩ := ihl hrootl hl
    obtain ⟨k', hk, hfr⟩ := ihr hrootr hr
    refine ⟨op.degree m' k', op.degree_le_degree hm hk, ?_⟩
    exact hasDegree_binary_iff.2
      ⟨m', k', hfl, hfr, fun hop => hright.isConstant (hconstant hop), rfl⟩

/-- Simplification keeps polynomials without roots polynomials, and their degree does not grow. -/
theorem simplify_isPolynomial_and_degree_le [Arithmetic α] [BEq ν] (e : Formula ν α) (limit : Nat)
    (hrootless : e.Rootless) (h : e.isPolynomial) :
    (e.simplify limit).isPolynomial ∧ (e.simplify limit).degree ≤ e.degree := by
  obtain ⟨n, hn, he⟩ := exists_hasDegree h
  obtain ⟨m, hm, hpass⟩ := (remnant_pass e).exists_hasDegree_le hrootless he
  rw [simplify_eq_pass, hn, isPolynomial, degree, hpass.classify_eq]
  exact ⟨rfl, Int.ofNat_le.2 hm⟩

def cancelledCube : Formula String Float :=
  binary .add
    (binary .sub (binary .mul (binary .mul (var "x") (var "x")) (var "x"))
      (binary .mul (binary .mul (var "x") (var "x")) (var "x")))
    (binary .div (binary .mul (const 1) (var "y")) (binary .sub (const 3) (const 1)))

theorem simplify_cancelledCube : cancelledCube.Rootless ∧ cancelledCube.isPolynomial ∧
    (cancelledCube.simplify 8).isPolynomial ∧
    (cancelledCube.simplify 8).degree ≤ cancelledCube.degree := by
  have hrootless : cancelledCube.Rootless := by
    simp [cancelledCube, Rootless, depthFirst]
  have hpolynomial : cancelledCube.isPolynomial := by decide
  exact ⟨hrootless, hpolynomial, simplify_isPolynomial_and_degree_le _ 8 hrootless hpolynomial⟩

/-- `Sqrt(x + 0 * (x * x))` passes for a polynomial, but not so the root of `x` that is left. -/
example : (apply .sqrt (binary .add (var "x") (binary .mul (const 0)
      (binary .mul (var "x") (var "x")))) : Formula String Float).degree = 1 ∧
    (apply .sqrt (binary .add (var "x") (binary .mul (const 0)
      (binary .mul (var "x") (var "x")))) : Formula String Float).pass.degree = -1 := by
  decide +kernel

end Formula

end Formulae
