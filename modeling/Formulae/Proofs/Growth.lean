import Formulae.Number.Binary64
import Formulae.Proofs.Degree
import Formulae.Proofs.Exact

/-! The degree that is reported bounds the growth of a formula, also where the rule for roots accepts
what is no polynomial. Bounds have the shape `C * (1 + M) ^ n` for names of size at most `M`, and each
way of building a formula has a bound of the whole from bounds of the parts. -/
namespace Formulae.Formula

section Largest

variable {K ν : Type} [Field K] [LinearOrder K] {ρ : ν → K} {xs : List ν}

def largest (ρ : ν → K) (xs : List ν) : K := (xs.map fun x => |ρ x|).foldr max 0

theorem largest_nonneg : 0 ≤ largest ρ xs := by
  induction xs with
  | nil => exact le_rfl
  | cons x xs ih => exact ih.trans (le_max_right _ _)

theorem abs_le_largest {x : ν} (h : x ∈ xs) : |ρ x| ≤ largest ρ xs := by
  induction xs with
  | nil => cases h
  | cons y ys ih =>
    cases h with
    | head => exact le_max_left _ _
    | tail _ h => exact (ih h).trans (le_max_right _ _)

end Largest

variable {K : Type} [Field K] [LinearOrder K] [IsStrictOrderedRing K]
variable {ν α : Type} [BEq ν] [Arithmetic α]
variable {F : ExactFunctions K} {e l r : Formula ν α} {C D : K} {m n : Nat}

/-- Wherever the formula has a value, names of size at most `M` keep it within `C * (1 + M) ^ n`. -/
structure GrowsAtMost (F : ExactFunctions K) (e : Formula ν α) (C : K) (n : Nat) : Prop where
  one_le : 1 ≤ C
  abs_le : ∀ ⦃ρ : ν → K⦄ ⦃M c : K⦄, 0 ≤ M → (∀ x ∈ e.vars, |ρ x| ≤ M) →
    e.exactValue? F ρ = some c → |c| ≤ C * (1 + M) ^ n

namespace GrowsAtMost

theorem nonneg (h : GrowsAtMost F e C n) : 0 ≤ C := zero_le_one.trans h.one_le

theorem const (a : α) : ∃ C, GrowsAtMost F (const a : Formula ν α) C 0 := by
  refine ⟨1 + |(((Arithmetic.rational? a).getD 0 : ℚ) : K)|, ?_, ?_⟩
  · exact le_add_of_nonneg_right (abs_nonneg _)
  · intro ρ M c _ _ hc
    obtain ⟨q, hq, rfl⟩ := exactValue?_const_eq_some.1 hc
    simp [hq]

theorem var (x : ν) : GrowsAtMost F (var x : Formula ν α) 1 1 where
  one_le := le_rfl
  abs_le ρ M c _ hρ hc := by
    cases hc
    have hx := hρ x List.mem_cons_self
    rw [one_mul, pow_one]
    exact hx.trans (le_add_of_nonneg_left zero_le_one)

omit [IsStrictOrderedRing K] in
theorem sign (s : Sign) (h : GrowsAtMost F e C n) : GrowsAtMost F (sign s e) C n where
  one_le := h.one_le
  abs_le ρ M c hM hρ hc := by
    obtain ⟨a, ha, rfl⟩ := exactValue?_sign_eq_some.1 hc
    cases s with
    | plus => exact h.abs_le hM hρ ha
    | minus => exact (abs_neg a).trans_le (h.abs_le hM hρ ha)

/-- Half the degree bounds the root: the factor is at least one, so its own root is no larger. -/
theorem sqrt (h : GrowsAtMost F e C (2 * n)) : GrowsAtMost F (apply .sqrt e) C n where
  one_le := h.one_le
  abs_le ρ M c hM hρ hc := by
    obtain ⟨a, ha, hroot⟩ := exactValue?_apply_eq_some.1 hc
    obtain ⟨hc, hsquare⟩ := (F.sqrt_eq_some_iff a c).1 hroot
    have hpow : 0 ≤ (1 + M) ^ n := pow_nonneg (add_nonneg zero_le_one hM) n
    rw [abs_of_nonneg hc, mul_self_le_mul_self_iff hc (mul_nonneg h.nonneg hpow)]
    calc c * c = a := hsquare
      _ ≤ C * (1 + M) ^ (2 * n) := (le_abs_self a).trans (h.abs_le hM hρ ha)
      _ ≤ C * C * (1 + M) ^ (2 * n) := by
        gcongr
        exact le_mul_of_one_le_left h.nonneg h.one_le
      _ = C * (1 + M) ^ n * (C * (1 + M) ^ n) := by ring

theorem add_abs_le (hl : GrowsAtMost F l C m) (hr : GrowsAtMost F r D n) {ρ : ν → K} {M a b : K}
    (hM : 0 ≤ M) (hleft : ∀ x ∈ l.vars, |ρ x| ≤ M) (hright : ∀ x ∈ r.vars, |ρ x| ≤ M)
    (ha : l.exactValue? F ρ = some a) (hb : r.exactValue? F ρ = some b) :
    |a| + |b| ≤ (C + D) * (1 + M) ^ max m n := by
  have hC : 0 ≤ C := hl.nonneg
  have hD : 0 ≤ D := hr.nonneg
  have hbase : 1 ≤ 1 + M := le_add_of_nonneg_right hM
  calc |a| + |b| ≤ C * (1 + M) ^ m + D * (1 + M) ^ n :=
        add_le_add (hl.abs_le hM hleft ha) (hr.abs_le hM hright hb)
    _ ≤ C * (1 + M) ^ max m n + D * (1 + M) ^ max m n := by
        gcongr
        · exact le_max_left m n
        · exact le_max_right m n
    _ = (C + D) * (1 + M) ^ max m n := (add_mul _ _ _).symm

variable [LawfulBEq ν]

theorem add (hl : GrowsAtMost F l C m) (hr : GrowsAtMost F r D n) :
    GrowsAtMost F (binary .add l r) (C + D) (max m n) where
  one_le := hl.one_le.trans (le_add_of_nonneg_right hr.nonneg)
  abs_le ρ M c hM hρ hc := by
    obtain ⟨a, b, ha, hb, hab⟩ := exactValue?_binary_eq_some.1 hc
    cases hab
    obtain ⟨hleft, hright⟩ := forall_mem_vars_binary.1 hρ
    exact (abs_add_le a b).trans (add_abs_le hl hr hM hleft hright ha hb)

theorem sub (hl : GrowsAtMost F l C m) (hr : GrowsAtMost F r D n) :
    GrowsAtMost F (binary .sub l r) (C + D) (max m n) where
  one_le := (hl.add hr).one_le
  abs_le ρ M c hM hρ hc := by
    obtain ⟨a, b, ha, hb, hab⟩ := exactValue?_binary_eq_some.1 hc
    cases hab
    obtain ⟨hleft, hright⟩ := forall_mem_vars_binary.1 hρ
    exact (abs_sub a b).trans (add_abs_le hl hr hM hleft hright ha hb)

theorem mul (hl : GrowsAtMost F l C m) (hr : GrowsAtMost F r D n) :
    GrowsAtMost F (binary .mul l r) (C * D) (m + n) where
  one_le := one_le_mul_of_one_le_of_one_le hl.one_le hr.one_le
  abs_le ρ M c hM hρ hc := by
    obtain ⟨a, b, ha, hb, hab⟩ := exactValue?_binary_eq_some.1 hc
    cases hab
    obtain ⟨hleft, hright⟩ := forall_mem_vars_binary.1 hρ
    have ha := hl.abs_le hM hleft ha
    have hb := hr.abs_le hM hright hb
    calc |a * b| = |a| * |b| := abs_mul a b
      _ ≤ C * (1 + M) ^ m * (D * (1 + M) ^ n) :=
        mul_le_mul ha hb (abs_nonneg b) ((abs_nonneg a).trans ha)
      _ = C * D * (1 + M) ^ (m + n) := by ring

/-- A constant divisor is the same number wherever it has a value, or has none anywhere. -/
theorem div (hl : GrowsAtMost F l C m) (hconstant : r.isConstant) :
    ∃ D, GrowsAtMost F (binary .div l r) D m := by
  obtain ⟨b, hdivisor⟩ := exists_forall_exactValue?_eq hconstant F
  have hscale : 0 ≤ |b|⁻¹ := inv_nonneg.2 (abs_nonneg b)
  refine ⟨C + C * |b|⁻¹, ?_, ?_⟩
  · exact hl.one_le.trans (le_add_of_nonneg_right (mul_nonneg hl.nonneg hscale))
  · intro ρ M c hM hρ hc
    obtain ⟨a, b', ha, hb, hab⟩ := exactValue?_binary_eq_some.1 hc
    rw [hdivisor ρ b' hb] at hab
    obtain ⟨-, rfl⟩ := BinaryOp.exactEval?_div_eq_some.1 hab
    have ha := hl.abs_le hM (forall_mem_vars_binary.1 hρ).1 ha
    have hbound : 0 ≤ C * (1 + M) ^ m := (abs_nonneg a).trans ha
    calc |a / b| = |a| * |b|⁻¹ := by rw [abs_div, div_eq_mul_inv]
      _ ≤ C * (1 + M) ^ m * |b|⁻¹ := mul_le_mul_of_nonneg_right ha hscale
      _ ≤ C * (1 + M) ^ m + C * (1 + M) ^ m * |b|⁻¹ := le_add_of_nonneg_left hbound
      _ = (C + C * |b|⁻¹) * (1 + M) ^ m := by ring

end GrowsAtMost

theorem HasDegree.exists_growsAtMost [LawfulBEq ν] (h : HasDegree e n) :
    ∃ C, GrowsAtMost F e C n := by
  induction h with
  | const a => exact GrowsAtMost.const a
  | var x => exact ⟨1, .var x⟩
  | sign s _ ih =>
    obtain ⟨C, hC⟩ := ih
    exact ⟨C, hC.sign s⟩
  | sqrt _ ih =>
    obtain ⟨C, hC⟩ := ih
    exact ⟨C, hC.sqrt⟩
  | add _ _ ihl ihr =>
    obtain ⟨C, hC⟩ := ihl
    obtain ⟨D, hD⟩ := ihr
    exact ⟨C + D, hC.add hD⟩
  | sub _ _ ihl ihr =>
    obtain ⟨C, hC⟩ := ihl
    obtain ⟨D, hD⟩ := ihr
    exact ⟨C + D, hC.sub hD⟩
  | mul _ _ ihl ihr =>
    obtain ⟨C, hC⟩ := ihl
    obtain ⟨D, hD⟩ := ihr
    exact ⟨C * D, hC.mul hD⟩
  | div _ _ hconstant ihl _ =>
    obtain ⟨C, hC⟩ := ihl
    exact hC.div hconstant

/-- A formula that is classified as a polynomial of degree `n` grows like one, in every ordered field:
a single factor bounds its value by the power `n` of its largest name, wherever it has a value. -/
theorem exists_abs_exactValue_le_of_isPolynomial [LawfulBEq ν] (F : ExactFunctions K)
    (h : e.isPolynomial) :
    ∃ n : Nat, e.degree = n ∧ ∃ C : K, ∀ ρ c, e.exactValue? F ρ = some c →
      |c| ≤ C * (1 + largest ρ e.vars) ^ n := by
  obtain ⟨n, hn, hdegree⟩ := exists_hasDegree h
  obtain ⟨C, hC⟩ := hdegree.exists_growsAtMost (F := F)
  exact ⟨n, hn, C, fun ρ c hc => hC.abs_le largest_nonneg (fun x => abs_le_largest) hc⟩

def distance : Formula String Float :=
  binary .div
    (binary .sub
      (binary .mul (const 3.0)
        (apply .sqrt (binary .add (binary .mul (var "x") (var "x")) (binary .mul (var "y") (var "y")))))
      (var "y"))
    (const 2.0)

theorem exists_abs_distance_le : distance.isPolynomial ∧
    ∃ n : Nat, distance.degree = n ∧ ∃ C : ℝ, ∀ ρ c,
      distance.exactValue? ExactFunctions.real ρ = some c →
        |c| ≤ C * (1 + largest ρ distance.vars) ^ n := by
  have h : distance.isPolynomial := by decide
  exact ⟨h, exists_abs_exactValue_le_of_isPolynomial _ h⟩

end Formulae.Formula
