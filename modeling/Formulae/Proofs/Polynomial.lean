import Formulae.Number.Binary64
import Formulae.Proofs.Degree
import Formulae.Proofs.Exact

/-! What is classified as a polynomial is one, as long as no root is taken: over the rational numbers
its exact value is that of a polynomial in its variables, of no larger degree. -/
namespace Formulae.Formula
open Arithmetic

variable {ν α : Type} [Arithmetic α]

/-- The polynomial that a formula without functions is. Divisors are taken to be constant, so that
one of their values stands for all. -/
noncomputable def polynomial : Formula ν α → MvPolynomial ν ℚ
  | const a => .C ((rational? a).getD 0)
  | var x => .X x
  | sign .plus e => e.polynomial
  | sign .minus e => -e.polynomial
  | binary .add l r => l.polynomial + r.polynomial
  | binary .sub l r => l.polynomial - r.polynomial
  | binary .mul l r => l.polynomial * r.polynomial
  | binary .div l r => l.polynomial * .C (r.polynomial.eval 0)⁻¹
  | apply _ _ => 0

theorem polynomial_mem_supported [BEq ν] [LawfulBEq ν] (e : Formula ν α) {s : Set ν}
    (h : ∀ x ∈ e.vars, x ∈ s) : e.polynomial ∈ MvPolynomial.supported ℚ s := by
  induction e with
  | const a => exact Subalgebra.algebraMap_mem _ _
  | var x => exact (MvPolynomial.X_mem_supported).2 (h x List.mem_cons_self)
  | sign t e ih =>
    cases t with
    | plus => exact ih h
    | minus => exact Subalgebra.neg_mem _ (ih h)
  | apply f e => exact Subalgebra.zero_mem _
  | binary op l r ihl ihr =>
    obtain ⟨hl, hr⟩ := forall_mem_vars_binary.1 h
    cases op with
    | add => exact Subalgebra.add_mem _ (ihl hl) (ihr hr)
    | sub => exact Subalgebra.sub_mem _ (ihl hl) (ihr hr)
    | mul => exact Subalgebra.mul_mem _ (ihl hl) (ihr hr)
    | div => exact Subalgebra.mul_mem _ (ihl hl) (Subalgebra.algebraMap_mem _ _)

theorem totalDegree_polynomial_le {e : Formula ν α} {n : Nat} (h : HasDegree e n) :
    e.polynomial.totalDegree ≤ n := by
  induction h with
  | const a => exact (MvPolynomial.totalDegree_C _).le
  | var x => exact (MvPolynomial.totalDegree_X x).le
  | sign s _ ih =>
    cases s with
    | plus => exact ih
    | minus => exact (MvPolynomial.totalDegree_neg _).trans_le ih
  | sqrt => exact MvPolynomial.totalDegree_zero.trans_le (Nat.zero_le _)
  | add _ _ ihl ihr => exact (MvPolynomial.totalDegree_add _ _).trans (max_le_max ihl ihr)
  | sub _ _ ihl ihr => exact (MvPolynomial.totalDegree_sub _ _).trans (max_le_max ihl ihr)
  | mul _ _ ihl ihr => exact (MvPolynomial.totalDegree_mul _ _).trans (Nat.add_le_add ihl ihr)
  | div _ _ _ ihl _ =>
    refine (MvPolynomial.totalDegree_mul _ _).trans ?_
    rw [MvPolynomial.totalDegree_C, Nat.add_zero]
    exact ihl

/-- What makes a polynomial have a value in rational arithmetic: finite constants, no root, and no
divisor that is zero. A divisor is constant, so that one assignment speaks for all. -/
structure RationallyDefined (F : ExactFunctions ℚ) (e : Formula ν α) : Prop where
  finite : ∀ a, const a ∈ e.depthFirst → isFinite a
  rootless : ∀ f, apply .sqrt f ∉ e.depthFirst
  divisors : ∀ l r, binary .div l r ∈ e.depthFirst → ∃ ρ c, r.exactValue? F ρ = some c ∧ c ≠ 0

namespace RationallyDefined

variable {F : ExactFunctions ℚ} {e f l r : Formula ν α}

theorem mono (h : e.RationallyDefined F) (hsub : ∀ n ∈ f.depthFirst, n ∈ e.depthFirst) :
    f.RationallyDefined F where
  finite a ha := h.finite a (hsub _ ha)
  rootless g hg := h.rootless g (hsub _ hg)
  divisors l r hn := h.divisors l r (hsub _ hn)

theorem operand {s : Sign} (h : (sign s e).RationallyDefined F) : e.RationallyDefined F :=
  h.mono fun _ hn => List.mem_cons_of_mem _ hn

theorem left {op : BinaryOp} (h : (binary op l r).RationallyDefined F) : l.RationallyDefined F :=
  h.mono fun _ => mem_depthFirst_left

theorem right {op : BinaryOp} (h : (binary op l r).RationallyDefined F) : r.RationallyDefined F :=
  h.mono fun _ => mem_depthFirst_right

end RationallyDefined

variable [BEq ν] [LawfulBEq ν] {F : ExactFunctions ℚ} {e : Formula ν α} {n : Nat}

/-- A constant polynomial has one value, which is zero nowhere when it is not zero somewhere. -/
theorem eval_polynomial_of_isConstant (hconstant : e.isConstant)
    (hvalue : ∀ ρ, e.exactValue? F ρ = some (e.polynomial.eval ρ))
    (hdivisor : ∃ ρ c, e.exactValue? F ρ = some c ∧ c ≠ 0) (ρ : ν → ℚ) :
    e.polynomial.eval ρ = e.polynomial.eval 0 ∧ e.polynomial.eval ρ ≠ 0 := by
  have hsame (σ : ν → ℚ) : e.polynomial.eval ρ = e.polynomial.eval σ := by
    have hvalues := exactValue?_congr_of_isConstant (F := F) hconstant ρ σ
    rw [hvalue, hvalue] at hvalues
    exact Option.some.inj hvalues
  obtain ⟨σ, c, hc, hnonzero⟩ := hdivisor
  rw [hvalue, ← hsame] at hc
  cases hc
  exact ⟨hsame 0, hnonzero⟩

theorem exactValue?_eq_eval_polynomial (h : HasDegree e n) (hdefined : e.RationallyDefined F)
    (ρ : ν → ℚ) : e.exactValue? F ρ = some (e.polynomial.eval ρ) := by
  induction h generalizing ρ with
  | const a =>
    obtain ⟨q, hq⟩ := Option.isSome_iff_exists.1 (hdefined.finite a List.mem_cons_self)
    simp [exactValue?, polynomial, hq]
  | var x => simp [polynomial]
  | sign s _ ih =>
    have hvalue := ih hdefined.operand ρ
    cases s with
    | plus => simp [exactValue?, polynomial, hvalue, Sign.exactEval]
    | minus => simp [exactValue?, polynomial, hvalue, Sign.exactEval]
  | sqrt => exact absurd List.mem_cons_self (hdefined.rootless _)
  | add _ _ ihl ihr | sub _ _ ihl ihr | mul _ _ ihl ihr =>
    have hl := ihl hdefined.left ρ
    have hr := ihr hdefined.right ρ
    simp [exactValue?, polynomial, hl, hr, BinaryOp.exactEval?]
  | @div l r _ _ _ _ hconstant ihl ihr =>
    have hl := ihl hdefined.left ρ
    have hr := ihr hdefined.right
    obtain ⟨hsame, hnonzero⟩ := eval_polynomial_of_isConstant hconstant hr
      (hdefined.divisors l r List.mem_cons_self) ρ
    have hquotient := exactValue?_binary_eq_some.2 ⟨_, _, hl, hr ρ,
      BinaryOp.exactEval?_div_eq_some.2 ⟨hnonzero, rfl⟩⟩
    rw [hquotient, hsame, polynomial, map_mul, MvPolynomial.eval_C, div_eq_mul_inv]

/-- A formula without roots that is classified as a polynomial is one: where its constants are finite
and none of its divisors is zero, there is a polynomial in its variables, of at most the degree that
is reported, whose value is the exact value of the formula for all rational numbers. -/
theorem exists_polynomial_of_isPolynomial (F : ExactFunctions ℚ) (hpolynomial : e.isPolynomial)
    (hfinite : ∀ a, const a ∈ e.depthFirst → isFinite a)
    (hrootless : ∀ f, apply .sqrt f ∉ e.depthFirst)
    (hdivisors : ∀ l r, binary .div l r ∈ e.depthFirst →
      ∃ ρ c, r.exactValue? F ρ = some c ∧ c ≠ 0) :
    ∃ p : MvPolynomial ν ℚ, (∀ x ∈ p.vars, x ∈ e.vars) ∧ (p.totalDegree : ℤ) ≤ e.degree ∧
      ∀ ρ, e.exactValue? F ρ = some (p.eval ρ) := by
  obtain ⟨n, hn, hdegree⟩ := exists_hasDegree hpolynomial
  refine ⟨e.polynomial, ?_, ?_, ?_⟩
  · have hsupported := polynomial_mem_supported e (s := {x | x ∈ e.vars}) fun x hx => hx
    exact fun x hx => MvPolynomial.mem_supported.1 hsupported hx
  · rw [hn]
    exact_mod_cast totalDegree_polynomial_le hdegree
  · exact exactValue?_eq_eval_polynomial hdegree ⟨hfinite, hrootless, hdivisors⟩

def quadratic : Formula String Float :=
  binary .div
    (binary .sub
      (binary .mul (const 0.5)
        (binary .add (binary .mul (var "x") (var "x")) (binary .mul (var "x") (var "y"))))
      (var "y"))
    (binary .sub (const 4.0) (const 1.5))

theorem exists_polynomial_quadratic : quadratic.isPolynomial ∧
    ∃ p : MvPolynomial String ℚ, (∀ x ∈ p.vars, x ∈ quadratic.vars) ∧
      (p.totalDegree : ℤ) ≤ quadratic.degree ∧
      ∀ ρ, quadratic.exactValue? ExactFunctions.rational ρ = some (p.eval ρ) := by
  have hpolynomial : quadratic.isPolynomial := by decide
  have hdivisor : (binary .sub (const 4.0) (const 1.5) : Formula String Float).exactValue?
      ExactFunctions.rational 0 = some (5 / 2) := by decide +kernel
  refine ⟨hpolynomial, exists_polynomial_of_isPolynomial _ hpolynomial ?finite ?rootless ?divisors⟩
  case finite =>
    simp only [quadratic, depthFirst, List.cons_append, List.nil_append, List.mem_cons,
      List.not_mem_nil, const.injEq, reduceCtorEq, false_or, or_false, forall_eq_or_imp, forall_eq]
    decide +kernel
  case rootless => simp [quadratic, depthFirst]
  case divisors =>
    simp only [quadratic, depthFirst, List.cons_append, List.nil_append, List.mem_cons,
      List.not_mem_nil, binary.injEq, reduceCtorEq, false_and, true_and, or_false, and_imp]
    rintro l r - rfl
    exact ⟨0, 5 / 2, hdivisor, by norm_num⟩

end Formulae.Formula
