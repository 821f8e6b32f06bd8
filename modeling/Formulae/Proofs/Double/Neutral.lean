import Formulae.Proofs.Double.ZeroBlind

/-! Zero and one in the arithmetic of all doubles. What is neutral gives back even an infinite or an
undefined number; what absorbs does so with finite numbers alone, and makes the others undefined. -/
namespace Formulae.Number.Double
open Float.Model (UnpackedFloat)

variable {x : Float} {u : UnpackedFloat}

def undefined : Float := 0.0 / 0.0

def infinity (s : UnpackedFloat.Sign) : Float := pack (.infinity s)

theorem pack_notANumber : pack .notANumber = undefined := rfl

theorem eq_of_not_isFinite (h : ¬Arithmetic.isFinite x) : x = undefined ∨ ∃ s, x = infinity s := by
  rw [Arithmetic.isFinite, rational_eq] at h
  cases hx : unpack x with
  | notANumber => exact .inl (by rw [← pack_unpack x, hx, pack_notANumber])
  | infinity s => exact .inr ⟨s, by rw [← pack_unpack x, hx, infinity]⟩
  | zero s => simp [hx, rational_zero] at h
  | finite s m e hm => simp [hx, rational_finite] at h

theorem sameConstant_of_agree (h : Agree u (unpack x)) : sameConstant (pack u) x := by
  have hpack := sameConstant_pack h
  rwa [pack_unpack] at hpack

theorem add_zero_same (x : Float) : sameConstant (x + 0.0) x :=
  sameConstant_of_agree (add_zero_agree _)

theorem zero_add_same (x : Float) : sameConstant (0.0 + x) x :=
  sameConstant_of_agree (zero_add_agree _)

theorem one_of_not_isFinite (h : ¬Arithmetic.isFinite x) :
    x * 1.0 = x ∧ 1.0 * x = x ∧ x / 1.0 = x := by
  rcases eq_of_not_isFinite h with rfl | ⟨s, rfl⟩
  · exact ⟨rfl, rfl, rfl⟩
  · cases s <;> exact ⟨rfl, rfl, rfl⟩

theorem one_same (x : Float) :
    sameConstant (x * 1.0) x ∧ sameConstant (1.0 * x) x ∧ sameConstant (x / 1.0) x := by
  by_cases h : Arithmetic.isFinite x
  · obtain ⟨hmul, hmul'⟩ := mul_one_agree h
    exact ⟨sameConstant_of_agree hmul, sameConstant_of_agree hmul',
      sameConstant_of_agree (div_one_agree h)⟩
  · obtain ⟨hmul, hmul', hdiv⟩ := one_of_not_isFinite h
    rw [hmul, hmul', hdiv]
    exact ⟨sameConstant_refl x, sameConstant_refl x, sameConstant_refl x⟩

theorem absorbed_of_isFinite (h : Arithmetic.isFinite x) :
    sameConstant (x * 0.0) 0.0 ∧ sameConstant (0.0 * x) 0.0 ∧ sameConstant (x - x) 0.0 := by
  obtain ⟨hmul, hmul'⟩ := mul_zero_agree h
  exact ⟨sameConstant_of_agree hmul, sameConstant_of_agree hmul',
    sameConstant_of_agree (sub_agree h (.refl _))⟩

theorem absorbed_of_not_isFinite (h : ¬Arithmetic.isFinite x) :
    x * 0.0 = undefined ∧ 0.0 * x = undefined ∧ x - x = undefined := by
  rcases eq_of_not_isFinite h with rfl | ⟨s, rfl⟩
  · exact ⟨rfl, rfl, rfl⟩
  · cases s <;> exact ⟨rfl, rfl, rfl⟩

end Formulae.Number.Double
