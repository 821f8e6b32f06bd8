import Formulae.Proofs.Double.Nearness

/-! The shortest decimal number of a double reads as that double and no other: every point that the
search settles on lies among the reals of the double, and the last grid is so fine that it has such
a point. -/
namespace Formulae.Number

def Scientific.value (s : Scientific) : Rat := s.coefficient * (10 : Rat) ^ s.exponent

namespace Shortest
open Double (Canonical)

variable {t : Target} {m : Nat} {e k : Int}

theorem pow_toNat {b : Rat} (hb : b ≠ 0) (n : Int) : b ^ n.toNat = b ^ n * b ^ (-n).toNat := by
  rw [← zpow_natCast, ← zpow_natCast, ← zpow_add₀ hb]
  congr 1
  omega

def scale (e k : Int) : Rat := 10 ^ (-k).toNat * 2 ^ (2 - e).toNat

theorem scale_pos (e k : Int) : 0 < scale e k := by
  unfold scale
  positivity

theorem step_eq (e k : Int) : (step e k : Rat) = 10 ^ k * scale e k := by
  unfold step scale
  simp only [Nat.pow_eq]
  push_cast
  rw [pow_toNat (by norm_num) k, mul_assoc]

theorem quarter_eq (e k : Int) : (quarter e k : Rat) = 2 ^ (e - 2) * scale e k := by
  unfold quarter scale
  simp only [Nat.pow_eq]
  push_cast
  rw [pow_toNat (by norm_num) (e - 2), neg_sub]
  ring

theorem mul_quarter_le_iff (x c : Nat) (e k : Int) :
    x * quarter e k ≤ c * step e k ↔ (x : Rat) * 2 ^ (e - 2) ≤ c * 10 ^ k := by
  rw [← Nat.cast_le (α := Rat), Nat.cast_mul, Nat.cast_mul, step_eq, quarter_eq, ← mul_assoc,
    ← mul_assoc]
  exact mul_le_mul_iff_of_pos_right (scale_pos e k)

theorem mul_step_le_iff (x c : Nat) (e k : Int) :
    c * step e k ≤ x * quarter e k ↔ (c : Rat) * 10 ^ k ≤ x * 2 ^ (e - 2) := by
  rw [← Nat.cast_le (α := Rat), Nat.cast_mul, Nat.cast_mul, step_eq, quarter_eq, ← mul_assoc,
    ← mul_assoc]
  exact mul_le_mul_iff_of_pos_right (scale_pos e k)

theorem near_of_covers {c : Nat}
    (h : (Target.ofParts m e).covers (step e k) (quarter e k) c = true) :
    Near m e (c * (10 : Rat) ^ k) := by
  unfold Target.covers at h
  split at h
  · rename_i hclosed
    have heven : m % 2 = 0 := of_decide_eq_true hclosed
    obtain ⟨hlower, hupper⟩ := of_decide_eq_true h
    refine ⟨(mul_quarter_le_iff ..).1 hlower, (mul_step_le_iff ..).1 hupper, ?_⟩
    omega
  · obtain ⟨hlower, hupper⟩ := of_decide_eq_true h
    have hl := lt_of_not_ge (mt (mul_step_le_iff ..).2 (not_le_of_gt hlower))
    have hu := lt_of_not_ge (mt (mul_quarter_le_iff ..).2 (not_le_of_gt hupper))
    exact ⟨hl.le, hu.le, fun _ => ⟨hl, hu⟩⟩

theorem covers_of_candidate? {c : Nat} (h : candidate? t e k = some c) :
    t.covers (step e k) (quarter e k) c = true := by
  unfold candidate? at h
  dsimp only at h
  split at h
  · rename_i hlow hhigh
    split at h
    · cases h
      exact hlow
    · cases h
      exact hhigh
  · rename_i hlow _
    cases h
    exact hlow
  · rename_i _ hhigh
    cases h
    exact hhigh
  · cases h

theorem candidate?_isSome_of_covers
    (h : t.covers (step e k) (quarter e k) (t.value * quarter e k / step e k) = true) :
    (candidate? t e k).isSome := by
  unfold candidate?
  dsimp only
  rw [h]
  cases t.covers (step e k) (quarter e k) (t.value * quarter e k / step e k + 1) with
  | true =>
    dsimp only
    split <;> rfl
  | false => rfl

/-- A grid no coarser than a quarter has a point just below the value. -/
theorem covers_below (hm : 0 < m) {s u : Nat} (hs : 0 < s) (hfine : s ≤ u) :
    (Target.ofParts m e).covers s u ((Target.ofParts m e).value * u / s) = true := by
  let t := Target.ofParts m e
  have hdiv := Nat.div_add_mod (t.value * u) s
  have hmod := Nat.mod_lt (t.value * u) hs
  have hlower : t.lower * u + u ≤ t.value * u := by
    rw [← Nat.succ_mul]
    exact Nat.mul_le_mul_right _ (Double.lower_lt hm e)
  have hupper : t.value * u + u ≤ t.upper * u := by
    rw [← Nat.succ_mul]
    exact Nat.mul_le_mul_right _ (show 4 * m + 1 ≤ 4 * m + 2 by omega)
  have hcomm : t.value * u / s * s = s * (t.value * u / s) := Nat.mul_comm ..
  have hinside : t.lower * u < t.value * u / s * s ∧ t.value * u / s * s < t.upper * u := by
    omega
  unfold Target.covers
  split
  · exact decide_eq_true ⟨hinside.1.le, hinside.2.le⟩
  · exact decide_eq_true hinside

theorem candidate?_isSome (hm : 0 < m) (hfine : step e k ≤ quarter e k) :
    (candidate? (.ofParts m e) e k).isSome :=
  have hstep : 0 < step e k := Nat.mul_pos (Nat.pow_pos (by decide)) (Nat.pow_pos (by decide))
  candidate?_isSome_of_covers (covers_below hm hstep hfine)

theorem covers_search (n : Nat) (k : Int) (hlast : (candidate? t e (k - n)).isSome) :
    t.covers (step e (search t e (n + 1) k).exponent) (quarter e (search t e (n + 1) k).exponent)
      (search t e (n + 1) k).coefficient = true := by
  induction n generalizing k with
  | zero =>
    rw [Int.natCast_zero, Int.sub_zero] at hlast
    obtain ⟨c, hc⟩ := Option.isSome_iff_exists.1 hlast
    simp only [search, hc]
    exact covers_of_candidate? hc
  | succ n ih =>
    rw [search]
    cases hc : candidate? t e k with
    | some c => exact covers_of_candidate? hc
    | none =>
      refine ih (k - 1) ?_
      rwa [show k - 1 - (n : Int) = k - (n + 1 : Nat) by omega]

theorem ten_pow_le (n : Nat) : 10 ^ n ≤ 2 ^ (10 * (n / 3) + 4 * (n % 3)) := by
  calc 10 ^ n = (10 ^ 3) ^ (n / 3) * 10 ^ (n % 3) := by
        rw [← Nat.pow_mul, ← Nat.pow_add, Nat.div_add_mod]
    _ ≤ (2 ^ 10) ^ (n / 3) * (2 ^ 4) ^ (n % 3) :=
        Nat.mul_le_mul (Nat.pow_le_pow_left (by decide) _) (Nat.pow_le_pow_left (by decide) _)
    _ = 2 ^ (10 * (n / 3) + 4 * (n % 3)) := by
        rw [← Nat.pow_mul, ← Nat.pow_mul, ← Nat.pow_add]

theorem two_pow_le (n : Nat) : 2 ^ n ≤ 10 ^ (16 * (n / 53) + n % 53 / 3 + 1) := by
  have hrest : 2 ^ (n % 53) ≤ 10 ^ (n % 53 / 3 + 1) := by
    calc 2 ^ (n % 53) ≤ 2 ^ (3 * (n % 53 / 3 + 1)) := Nat.pow_le_pow_right (by decide) (by omega)
      _ = (2 ^ 3) ^ (n % 53 / 3 + 1) := Nat.pow_mul ..
      _ ≤ 10 ^ (n % 53 / 3 + 1) := Nat.pow_le_pow_left (by decide) _
  calc 2 ^ n = (2 ^ 53) ^ (n / 53) * 2 ^ (n % 53) := by
        rw [← Nat.pow_mul, ← Nat.pow_add, Nat.div_add_mod]
    _ ≤ (10 ^ 16) ^ (n / 53) * 10 ^ (n % 53 / 3 + 1) :=
        Nat.mul_le_mul (Nat.pow_le_pow_left (by decide) _) hrest
    _ = 10 ^ (16 * (n / 53) + n % 53 / 3 + 1) := by
        rw [← Nat.pow_mul, ← Nat.pow_add, Nat.add_assoc]

/-- Twenty-three powers of ten below the top, the grid is finer than a quarter. -/
theorem step_le_quarter (h : Canonical m e) (hm : 0 < m) :
    step e (topPower m e - 23) ≤ quarter e (topPower m e - 23) := by
  have hge := h.exponent_ge
  have hle := h.exponent_le
  have hlog : m.log2 < 53 := (Nat.log2_lt hm.ne').2 h.mantissa_lt
  obtain ⟨k, hk⟩ : ∃ k, topPower m e - 23 = k := ⟨_, rfl⟩
  have htop : 100000 * k ≤ 30103 * (53 + e) - 2100000 := by
    unfold topPower at hk
    omega
  rw [hk]
  unfold step quarter
  simp only [Nat.pow_eq]
  rcases lt_or_ge k 0 with hneg | hpos
  · have hpower : 2 ^ (2 - e).toNat ≤ 10 ^ (-k).toNat :=
      (two_pow_le _).trans (Nat.pow_le_pow_right (by decide) (by omega))
    calc 10 ^ k.toNat * 2 ^ (2 - e).toNat = 2 ^ (2 - e).toNat := by
          simp [Int.toNat_eq_zero.2 hneg.le]
      _ ≤ 10 ^ (-k).toNat := hpower
      _ ≤ 10 ^ (-k).toNat * 2 ^ (e - 2).toNat :=
          Nat.le_mul_of_pos_right _ (Nat.pow_pos (by decide))
  · have hpower : 10 ^ k.toNat ≤ 2 ^ (e - 2).toNat :=
      (ten_pow_le _).trans (Nat.pow_le_pow_right (by decide) (by omega))
    have hk : (-k).toNat = 0 := by omega
    have he : (2 - e).toNat = 0 := by omega
    simpa [hk, he] using hpower

end Shortest

namespace Double
open Shortest

/-- The shortest decimal number of a double reads as the double. -/
theorem near_shortest {m : Nat} {e : Int} (h : Canonical m e) : Near m e (shortest m e).value := by
  rcases Nat.eq_zero_or_pos m with rfl | hm
  · have hzero : (shortest 0 e).value = 0 := by simp [shortest, Scientific.value]
    rw [hzero]
    exact near_zero e
  · have hsearch : shortest m e = search (.ofParts m e) e (23 + 1) (topPower m e) := by
      unfold shortest
      rw [if_neg hm.ne']
      rfl
    rw [hsearch]
    exact near_of_covers (covers_search 23 _ (candidate?_isSome hm (step_le_quarter h hm)))

theorem shortest_injective {m m' : Nat} {e e' : Int} (h : Canonical m e) (h' : Canonical m' e')
    (heq : (shortest m e).value = (shortest m' e').value) : m = m' ∧ e = e' :=
  near_unique h h' (near_shortest h) (heq ▸ near_shortest h')

end Double

end Formulae.Number
