import Formulae.Literal
import Formulae.Proofs.Double.Nearness

/-! Which numbers have a nearest double. Rounding leaves a number fifty-three bits, and a number is
beyond all doubles when these, rounded, need an exponent that no double has: from half a unit above
the largest double on. -/
namespace Formulae

namespace Number

/-- A quotient is rounded to an even number or beyond from half a unit below it on: the tie goes
up. -/
theorem le_roundQuotient_iff {k : Nat} (hk : k % 2 = 0) (n : Nat) {d : Nat} (hd : 0 < d) :
    k ≤ roundQuotient n d ↔ 2 * (k * d) ≤ 2 * n + d := by
  have hn := Nat.div_add_mod' n d
  have hrest := Nat.mod_lt n hd
  have hle {a b : Nat} (h : a ≤ b) : a * d ≤ b * d := Nat.mul_le_mul_right d h
  unfold roundQuotient
  dsimp only
  generalize n / d = q at *
  generalize n % d = r at *
  have hone : (q + 1) * d = q * d + d := by ring
  have htwo : (q + 2) * d = q * d + 2 * d := by ring
  split
  · rename_i hdown
    constructor
    · intro h
      have := hle h
      omega
    · intro h
      by_contra hlt
      rcases hdown with hless | ⟨hhalf, heven⟩
      · have := hle (show q + 1 ≤ k by omega)
        omega
      · have := hle (show q + 2 ≤ k by omega)
        omega
  · rename_i hup
    constructor
    · intro h
      have := hle h
      omega
    · intro h
      by_contra hlt
      have := hle (show q + 2 ≤ k by omega)
      omega

namespace Binary64

/-- The least number that is rounded beyond the largest double. -/
def overflow : Rat := (2 ^ 54 - 1) * 2 ^ 970

theorem mantissa_eq (n d : Nat) (e : Int) :
    mantissa n d e = roundQuotient (n * 2 ^ (-e).toNat) (d * 2 ^ e.toNat) := by
  unfold mantissa
  rw [Nat.pow_eq]
  split
  · rw [show e.natAbs = (-e).toNat by omega, show e.toNat = 0 by omega, pow_zero, Nat.mul_one]
  · rw [show e.natAbs = e.toNat by omega, show (-e).toNat = 0 by omega, pow_zero, Nat.mul_one]

theorem below_iff (n d : Nat) (e : Int) :
    below n d e ↔ n * 2 ^ (-e).toNat < 2 ^ 52 * (d * 2 ^ e.toNat) := by
  unfold below
  rw [Nat.pow_eq, Nat.pow_eq]
  split
  · rw [show e.natAbs = (-e).toNat by omega, show e.toNat = 0 by omega, pow_zero, Nat.mul_one,
      decide_eq_true_eq, Nat.mul_comm d]
  · rw [show e.natAbs = e.toNat by omega, show (-e).toNat = 0 by omega, pow_zero, Nat.mul_one,
      decide_eq_true_eq, Nat.mul_comm (2 ^ 52)]

variable {n d : Nat} {e : Int}

theorem mul_scaled_le_iff (hd : 0 < d) (k : Nat) (e : Int) :
    k * (d * 2 ^ e.toNat) ≤ n * 2 ^ (-e).toNat ↔ (k : Rat) * 2 ^ e ≤ n / d := by
  have hdpos : (0 : Rat) < d := by exact_mod_cast hd
  have hscale : (0 : Rat) < 2 ^ (-e).toNat := by positivity
  have hpow : (2 : Rat) ^ e.toNat = 2 ^ e * 2 ^ (-e).toNat := by
    rw [← zpow_natCast, ← zpow_natCast, ← zpow_add₀ two_ne_zero]
    congr 1
    omega
  rw [le_div_iff₀ hdpos, ← mul_le_mul_iff_left₀ hscale, ← Nat.cast_le (α := Rat)]
  push_cast
  rw [hpow]
  ring_nf

theorem le_mantissa_iff {k : Nat} (hk : k % 2 = 0) (hpos : 0 < k) (hd : 0 < d) :
    k ≤ mantissa n d e ↔ ((2 * k - 1 : Nat) : Rat) * 2 ^ e ≤ 2 * (n / d) := by
  have hunit : 0 < d * 2 ^ e.toNat := by positivity
  have hsplit : 2 * (k * (d * 2 ^ e.toNat)) =
      (2 * k - 1) * (d * 2 ^ e.toNat) + d * 2 ^ e.toNat := by
    rw [← Nat.succ_mul, show (2 * k - 1).succ = 2 * k by omega, Nat.mul_assoc]
  have hdouble : (2 * (n / d) : Rat) = (2 * n : Nat) / d := by
    push_cast
    ring
  rw [mantissa_eq, le_roundQuotient_iff hk _ hunit, hsplit, Nat.add_le_add_iff_right, hdouble,
    ← mul_scaled_le_iff hd, Nat.mul_assoc 2]

theorem below_iff_lt (hd : 0 < d) : below n d e ↔ (n / d : Rat) < 2 ^ (52 + e) := by
  rw [below_iff, ← Nat.not_le, mul_scaled_le_iff hd, not_le, zpow_add₀ two_ne_zero]
  norm_num

theorem quotient_bounds (hn : 0 < n) (hd : 0 < d) :
    (2 : Rat) ^ ((n.log2 : Int) - d.log2 - 1) ≤ n / d ∧
      (n / d : Rat) < 2 ^ ((n.log2 : Int) - d.log2 + 1) := by
  have hdpos : (0 : Rat) < d := by exact_mod_cast hd
  have length {m : Nat} (hm : 0 < m) :
      (2 : Rat) ^ (m.log2 : Int) ≤ m ∧ (m : Rat) < 2 ^ ((m.log2 : Int) + 1) := by
    have hlower := Nat.log2_self_le hm.ne'
    have hupper := Nat.lt_log2_self (n := m)
    exact ⟨by exact_mod_cast hlower, by exact_mod_cast hupper⟩
  obtain ⟨hnl, hnu⟩ := length hn
  obtain ⟨hdl, hdu⟩ := length hd
  constructor
  · rw [le_div_iff₀ hdpos]
    calc (2 : Rat) ^ ((n.log2 : Int) - d.log2 - 1) * d
        ≤ 2 ^ ((n.log2 : Int) - d.log2 - 1) * 2 ^ ((d.log2 : Int) + 1) :=
          mul_le_mul_of_nonneg_left hdu.le (zpow_pos two_pos _).le
      _ = 2 ^ (n.log2 : Int) := by
          rw [← zpow_add₀ two_ne_zero]
          congr 1
          omega
      _ ≤ n := hnl
  · rw [div_lt_iff₀ hdpos]
    calc (n : Rat) < 2 ^ ((n.log2 : Int) + 1) := hnu
      _ = 2 ^ ((n.log2 : Int) - d.log2 + 1) * 2 ^ (d.log2 : Int) := by
          rw [← zpow_add₀ two_ne_zero]
          congr 1
          omega
      _ ≤ 2 ^ ((n.log2 : Int) - d.log2 + 1) * d :=
          mul_le_mul_of_nonneg_left hdl (zpow_pos two_pos _).le

theorem unitExponent_bounds (hn : 0 < n) (hd : 0 < d) :
    leastExponent ≤ unitExponent n d ∧ (n / d : Rat) < 2 ^ (53 + unitExponent n d) ∧
      (unitExponent n d = leastExponent ∨ (2 : Rat) ^ (52 + unitExponent n d) ≤ n / d) := by
  obtain ⟨hlower, hupper⟩ := quotient_bounds hn hd
  -- Before the least exponent comes in, the quotient has exactly fifty-three bits.
  have hexact : ∃ e, unitExponent n d = max leastExponent e ∧
      (2 : Rat) ^ (52 + e) ≤ n / d ∧ (n / d : Rat) < 2 ^ (53 + e) := by
    by_cases hbelow : below n d ((n.log2 : Int) - d.log2 - 52)
    · refine ⟨(n.log2 : Int) - d.log2 - 52 - 1, ?_, ?_, ?_⟩
      · simp only [unitExponent, hbelow, if_true]
      · exact (zpow_le_zpow_right₀ one_le_two (by omega)).trans hlower
      · exact ((below_iff_lt hd).1 hbelow).trans_le (zpow_le_zpow_right₀ one_le_two (by omega))
    · refine ⟨(n.log2 : Int) - d.log2 - 52, by simp only [unitExponent, hbelow]; rfl, ?_, ?_⟩
      · exact not_lt.1 fun h => hbelow ((below_iff_lt hd).2 h)
      · exact hupper.trans_le (zpow_le_zpow_right₀ one_le_two (by omega))
  obtain ⟨e, heq, hle, hlt⟩ := hexact
  rw [heq]
  refine ⟨le_max_left _ _, hlt.trans_le (zpow_le_zpow_right₀ one_le_two (by omega)), ?_⟩
  rcases le_total e leastExponent with h | h
  · exact .inl (max_eq_left h)
  · rw [max_eq_right h]
    exact .inr hle

theorem mantissa_le (hn : 0 < n) (hd : 0 < d) : mantissa n d (unitExponent n d) ≤ 2 ^ 53 + 1 := by
  have hlt := (unitExponent_bounds hn hd).2.1
  have hunit : (0 : Rat) < 2 ^ unitExponent n d := zpow_pos two_pos _
  rw [zpow_add₀ two_ne_zero] at hlt
  by_contra hlarge
  have hnext : 2 ^ 53 + 2 ≤ mantissa n d (unitExponent n d) := by omega
  have hle := (le_mantissa_iff (by decide) (by decide) hd).1 hnext
  norm_num at hlt hle
  linarith

theorem le_mantissa (hd : 0 < d) (h : (2 : Rat) ^ (52 + unitExponent n d) ≤ n / d) :
    2 ^ 52 ≤ mantissa n d (unitExponent n d) := by
  have hunit : (0 : Rat) < 2 ^ unitExponent n d := zpow_pos two_pos _
  rw [zpow_add₀ two_ne_zero] at h
  rw [le_mantissa_iff (by decide) (by decide) hd]
  norm_num at h ⊢
  linarith

theorem overflow_eq : overflow = (2 ^ 54 - 1) * 2 ^ (970 : Int) := by
  rw [overflow, ← zpow_natCast 2 970]
  rfl

theorem overflow_pos : 0 < overflow := by
  rw [overflow_eq]
  exact mul_pos (by norm_num) (zpow_pos two_pos _)

theorem lt_overflow_of_unitExponent_lt (hn : 0 < n) (hd : 0 < d) (h : unitExponent n d < 971) :
    (n / d : Rat) < overflow := by
  have hunit : (0 : Rat) < 2 ^ (970 : Int) := zpow_pos two_pos _
  rw [overflow_eq]
  calc (n / d : Rat) < 2 ^ (53 + unitExponent n d) := (unitExponent_bounds hn hd).2.1
    _ ≤ 2 ^ (53 + 970 : Int) := zpow_le_zpow_right₀ one_le_two (by omega)
    _ = 2 ^ 53 * 2 ^ (970 : Int) := zpow_add₀ two_ne_zero 53 970
    _ ≤ (2 ^ 54 - 1) * 2 ^ (970 : Int) := mul_le_mul_of_nonneg_right (by norm_num) hunit.le

theorem overflow_le_of_lt_unitExponent (h : 971 < unitExponent n d)
    (hnormal : (2 : Rat) ^ (52 + unitExponent n d) ≤ n / d) : overflow ≤ n / d := by
  have hunit : (0 : Rat) < 2 ^ (970 : Int) := zpow_pos two_pos _
  rw [overflow_eq]
  calc (2 ^ 54 - 1) * 2 ^ (970 : Int) ≤ (2 : Rat) ^ 54 * 2 ^ (970 : Int) :=
        mul_le_mul_of_nonneg_right (by norm_num) hunit.le
    _ = 2 ^ (54 + 970 : Int) := (zpow_add₀ two_ne_zero 54 970).symm
    _ ≤ 2 ^ (52 + unitExponent n d) := zpow_le_zpow_right₀ one_le_two (by omega)
    _ ≤ n / d := hnormal

/-- The mantissa is rounded up to one bit more, which a larger exponent would have to make up
for. -/
theorem overflow_le_iff_of_unitExponent_eq (hd : 0 < d) (h : unitExponent n d = 971) :
    overflow ≤ n / d ↔ 2 ^ 53 ≤ mantissa n d (unitExponent n d) := by
  have hunit : (2 : Rat) ^ unitExponent n d = 2 * 2 ^ (970 : Int) := by
    rw [h, show (971 : Int) = 1 + 970 by rfl, zpow_add₀ two_ne_zero, zpow_one]
  rw [overflow_eq, le_mantissa_iff (by decide) (by decide) hd, hunit]
  generalize (2 : Rat) ^ (970 : Int) = u
  norm_num
  constructor <;> intro h <;> linarith

/-- A quotient has no nearest double exactly when it lies half a unit above the largest one, or
beyond. -/
theorem nearestBits?_eq_none_iff (n : Nat) (hd : 0 < d) :
    nearestBits? n d = none ↔ overflow ≤ n / d := by
  rcases Nat.eq_zero_or_pos n with rfl | hn
  · simpa [nearestBits?] using overflow_pos
  · obtain ⟨hleast, -, hnormal⟩ := unitExponent_bounds hn hd
    have hmantissa := mantissa_le hn hd
    have hbits : nearestBits? n d = none ↔ 2047 * 2 ^ 52 ≤
        (unitExponent n d + 1074).toNat * 2 ^ 52 + mantissa n d (unitExponent n d) := by
      rw [nearestBits?, if_neg hn.ne']
      simp [leastExponent, Nat.pow_eq]
    rw [hbits]
    simp only [leastExponent] at hleast hnormal
    rcases lt_trichotomy (unitExponent n d) 971 with hsmall | hlast | hlarge
    · have hlt := lt_overflow_of_unitExponent_lt hn hd hsmall
      rw [← not_lt, ← not_lt, not_iff_not]
      exact iff_of_true (by omega) hlt
    · rw [overflow_le_iff_of_unitExponent_eq hd hlast, hlast]
      omega
    · have hle := hnormal.resolve_left (by omega)
      have hfull := le_mantissa hd hle
      exact iff_of_true (by omega) (overflow_le_of_lt_unitExponent hlarge hle)

theorem ofRatio?_eq_none_iff (negative : Bool) (n : Nat) (hd : 0 < d) :
    ofRatio? negative n d = none ↔ overflow ≤ n / d := by
  rw [ofRatio?, Option.map_eq_none_iff, nearestBits?_eq_none_iff n hd]

theorem ofRat?_eq_none_iff (r : Rat) : ofRat? r = none ↔ overflow ≤ |r| := by
  have habs : |r| = (r.num.natAbs : Rat) / r.den := by
    rw [Nat.cast_natAbs, Int.cast_abs, ← Nat.abs_cast r.den, ← abs_div, Rat.num_div_den]
  rw [ofRat?, ofRatio?_eq_none_iff _ _ r.pos, habs]

end Binary64

end Number

namespace Literal
open Number.Binary64

/-- A number that no double is near to, with the fault that it causes where a double is wanted. -/
inductive Overflows : Literal → ValueFault → Prop where
  | int {z : Int} (h : overflow ≤ |(z : Rat)|) : Overflows (int z) .integerTooLarge
  | named (family name : String) {z : Int} (h : overflow ≤ |(z : Rat)|) :
      Overflows (named family name z) .integerTooLarge
  | fraction {r : Rat} (h : overflow ≤ |r|) : Overflows (fraction r) .quotientTooLarge

theorem ofRatio?_int_eq_none_iff (z : Int) :
    ofRatio? (z < 0) z.natAbs 1 = none ↔ overflow ≤ |(z : Rat)| := by
  rw [ofRatio?_eq_none_iff _ _ Nat.one_pos, Nat.cast_one, div_one, Nat.cast_natAbs, Int.cast_abs]

theorem toFloat_int_eq_error_iff {z : Int} {why : ValueFault} :
    (int z).toFloat = .error why ↔ overflow ≤ |(z : Rat)| ∧ why = .integerTooLarge := by
  rw [toFloat, ← ofRatio?_int_eq_none_iff]
  cases ofRatio? (z < 0) z.natAbs 1 <;> simp [eq_comm]

theorem toFloat_fraction_eq_error_iff {r : Rat} {why : ValueFault} :
    (fraction r).toFloat = .error why ↔ overflow ≤ |r| ∧ why = .quotientTooLarge := by
  rw [toFloat, ← ofRat?_eq_none_iff]
  cases ofRat? r <;> simp [eq_comm]

theorem toFloat_eq_error_iff {v : Literal} (hv : v.lifts) {why : ValueFault} :
    v.toFloat = .error why ↔ v.Overflows why := by
  constructor
  · intro h
    cases v with
    | bool | float => cases h
    | int z =>
      obtain ⟨hz, rfl⟩ := toFloat_int_eq_error_iff.1 h
      exact .int hz
    | named family name z =>
      obtain ⟨hz, rfl⟩ := toFloat_int_eq_error_iff.1 h
      exact .named family name hz
    | fraction r =>
      obtain ⟨hr, rfl⟩ := toFloat_fraction_eq_error_iff.1 h
      exact .fraction hr
    | null | complex | decimal | text | list => cases hv
  · intro h
    cases h with
    | int hz | named _ _ hz => exact toFloat_int_eq_error_iff.2 ⟨hz, rfl⟩
    | fraction hr => exact toFloat_fraction_eq_error_iff.2 ⟨hr, rfl⟩

end Literal

end Formulae
