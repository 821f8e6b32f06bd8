import Formulae.Number.Scientific
import Formulae.Proofs.Double.Unpacked

/-! The reals that read as one double. Those of different doubles have no number in common: the
halfway point between two neighbours belongs to the one with the even mantissa. In particular
different doubles have different values. -/
namespace Formulae.Number
open Shortest (Target)

/-- `q` reads as the double `m · 2 ^ e`. -/
structure Near (m : Nat) (e : Int) (q : Rat) : Prop where
  lower_le : (Target.ofParts m e).lower * (2 : Rat) ^ (e - 2) ≤ q
  le_upper : q ≤ (Target.ofParts m e).upper * (2 : Rat) ^ (e - 2)
  inside : m % 2 = 1 → (Target.ofParts m e).lower * (2 : Rat) ^ (e - 2) < q ∧
    q < (Target.ofParts m e).upper * (2 : Rat) ^ (e - 2)

namespace Double

variable {m m' : Nat} {e e' : Int} {q : Rat}

theorem lower_lt (hm : 0 < m) (e : Int) : (Target.ofParts m e).lower < 4 * m := by
  unfold Target.ofParts
  dsimp only
  split <;> omega

theorem lower_ge (m : Nat) (e : Int) : 4 * m - 2 ≤ (Target.ofParts m e).lower := by
  unfold Target.ofParts
  dsimp only
  split <;> omega

theorem near_self (hm : 0 < m) (e : Int) : Near m e (m * (2 : Rat) ^ e) := by
  have hvalue : (m : Rat) * 2 ^ e = ((4 * m : Nat) : Rat) * 2 ^ (e - 2) := by
    rw [show e = (e - 2) + 2 by omega, zpow_add₀ (by norm_num)]
    push_cast
    ring_nf
  have hunit : (0 : Rat) < 2 ^ (e - 2) := zpow_pos (by norm_num) _
  have hlower : ((Target.ofParts m e).lower : Rat) < (4 * m : Nat) := by
    exact_mod_cast lower_lt hm e
  have hupper : ((4 * m : Nat) : Rat) < (Target.ofParts m e).upper := by
    exact_mod_cast (show 4 * m < 4 * m + 2 by omega)
  have hl := mul_lt_mul_of_pos_right hlower hunit
  have hu := mul_lt_mul_of_pos_right hupper hunit
  rw [hvalue]
  exact ⟨hl.le, hu.le, fun _ => ⟨hl, hu⟩⟩

theorem near_zero (e : Int) : Near 0 e 0 := by
  have hunit : (0 : Rat) < 2 ^ (e - 2) := zpow_pos (by norm_num) _
  refine ⟨by simp [Target.ofParts], ?_, nofun⟩
  exact mul_nonneg (Nat.cast_nonneg _) hunit.le

/-- A greater double lies so much higher that the halfway points do not cross; those of two even
mantissas do not even meet. -/
theorem upper_le_lower (h : Canonical m e) (h' : Canonical m' e')
    (hlt : e < e' ∨ e = e' ∧ m < m') :
    (Target.ofParts m e).upper ≤ (Target.ofParts m' e').lower * 2 ^ (e' - e).toNat ∧
      (m % 2 = 0 → m' % 2 = 0 →
        (Target.ofParts m e).upper < (Target.ofParts m' e').lower * 2 ^ (e' - e).toNat) := by
  have hmantissa := h.mantissa_lt
  have hge := h.exponent_ge
  change 4 * m + 2 ≤ _ ∧ (_ → _ → 4 * m + 2 < _)
  rcases hlt with hlt | ⟨rfl, hlt⟩
  · have hnormal : 2 ^ 52 ≤ m' := h'.normal.resolve_right (by omega)
    have hlower : 2 ^ 54 - 1 ≤ (Target.ofParts m' e').lower := by
      unfold Target.ofParts Binary64.leastExponent
      dsimp only [Nat.pow_eq]
      split <;> omega
    have htwo : 2 ≤ 2 ^ (e' - e).toNat := by
      have := Nat.pow_le_pow_right (n := 2) (by decide) (show 1 ≤ (e' - e).toNat by omega)
      omega
    have := Nat.mul_le_mul hlower htwo
    omega
  · have := lower_ge m' e
    rw [Int.sub_self, Int.toNat_zero, Nat.pow_zero, Nat.mul_one]
    omega

theorem not_near_of_lt (h : Canonical m e) (h' : Canonical m' e') (hq : Near m e q)
    (hq' : Near m' e' q) : ¬(e < e' ∨ e = e' ∧ m < m') := by
  intro hlt
  obtain ⟨hle, hlt'⟩ := upper_le_lower h h' hlt
  have hunit : (0 : Rat) < 2 ^ (e - 2) := zpow_pos (by norm_num) _
  have hscale : (2 : Rat) ^ (e' - 2) = 2 ^ (e' - e).toNat * 2 ^ (e - 2) := by
    rw [← zpow_natCast, ← zpow_add₀ (by norm_num)]
    congr 1
    omega
  have hlower : (Target.ofParts m' e').lower * (2 : Rat) ^ (e' - 2) =
      ((Target.ofParts m' e').lower * 2 ^ (e' - e).toNat : Nat) * 2 ^ (e - 2) := by
    rw [hscale]
    push_cast
    ring
  have hupperq := hq.le_upper
  have hlowerq := hq'.lower_le
  rw [hlower] at hlowerq
  -- The two ends meet in `q`, which a double with an odd mantissa does not reach.
  have hmeet : ((Target.ofParts m e).upper : Rat) * 2 ^ (e - 2) ≤
      ((Target.ofParts m' e').lower * 2 ^ (e' - e).toNat : Nat) * 2 ^ (e - 2) :=
    mul_le_mul_of_nonneg_right (by exact_mod_cast hle) hunit.le
  have heven : m % 2 = 0 := by
    by_contra hodd
    have := (hq.inside (by omega)).2
    linarith
  have heven' : m' % 2 = 0 := by
    by_contra hodd
    have := (hq'.inside (by omega)).1
    rw [hlower] at this
    linarith
  have hapart : ((Target.ofParts m e).upper : Rat) * 2 ^ (e - 2) <
      ((Target.ofParts m' e').lower * 2 ^ (e' - e).toNat : Nat) * 2 ^ (e - 2) :=
    mul_lt_mul_of_pos_right (by exact_mod_cast hlt' heven heven') hunit
  linarith

theorem near_unique (h : Canonical m e) (h' : Canonical m' e') (hq : Near m e q)
    (hq' : Near m' e' q) : m = m' ∧ e = e' := by
  have hlt := not_near_of_lt h h' hq hq'
  have hgt := not_near_of_lt h' h hq' hq
  omega

theorem dyadic_eq (m : Int) (e : Int) : Binary64.dyadic m e = m * (2 : Rat) ^ e := by
  unfold Binary64.dyadic
  rw [Rat.mkRat_eq_div, Rat.mkRat_eq_div, Nat.pow_eq]
  split
  · rename_i hneg
    obtain ⟨n, rfl⟩ : ∃ n : Nat, e = -n := ⟨e.natAbs, by omega⟩
    rw [zpow_neg, zpow_natCast, div_eq_mul_inv, Int.natAbs_neg, Int.natAbs_natCast]
    push_cast
    rfl
  · rename_i hpos
    obtain ⟨n, rfl⟩ : ∃ n : Nat, e = n := ⟨e.toNat, by omega⟩
    rw [zpow_natCast, Int.natAbs_natCast]
    push_cast
    rw [div_one]

theorem parts_eq_of_value_eq (h : Canonical m e) (h' : Canonical m' e') (hm : 0 < m) (hm' : 0 < m')
    (heq : (m : Rat) * 2 ^ e = m' * 2 ^ e') : m = m' ∧ e = e' :=
  near_unique h h' (near_self hm e) (heq ▸ near_self hm' e')

end Double

end Formulae.Number
