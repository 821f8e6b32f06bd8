import Formulae.Proofs.Double.Laws
import Formulae.Proofs.Double.Order
import Formulae.Proofs.Double.Text
import Formulae.Proofs.ZeroBlind

/-! Doubles of one value are identical or zeros, and their arithmetic tells the two zeros apart only
by dividing by them. Sine, cosine and tangent are again whatever they are given as. -/
namespace Formulae.Number.Double
open Float.Model (UnpackedFloat)

variable {x y : Float} {u u' v v' : UnpackedFloat}

theorem sameConstant_iff_agree : sameConstant x y ↔ Agree (unpack x) (unpack y) := by
  rw [sameConstant, Bool.or_eq_true, Bool.and_eq_true, isUndefined_iff, isUndefined_iff, beq_iff]
  constructor
  · rintro (⟨hagree, -⟩ | ⟨hx, hy⟩)
    · exact hagree
    · rw [hx, hy]
      exact .refl _
  · intro h
    by_cases hx : unpack x = .notANumber
    · exact .inr ⟨hx, h.notANumber_iff.1 hx⟩
    · exact .inl ⟨h, hx⟩

theorem sameConstant_pack (h : Agree u v) : sameConstant (pack u) (pack v) := by
  cases h with
  | refl => exact sameConstant_refl _
  | zero s t =>
    rw [sameConstant_iff_agree, unpack_pack_zero, unpack_pack_zero]
    exact .zero s t

theorem eq_zero_of_unpack {s : UnpackedFloat.Sign} (h : unpack x = .zero s) :
    x = 0.0 ∨ x = -0.0 := by
  cases s with
  | positive => exact .inl (unpack_injective h)
  | negative => exact .inr (unpack_injective h)

theorem eq_or_zeros (h : sameConstant x y) : x = y ∨ (x = 0.0 ∧ y = -0.0) ∨ (x = -0.0 ∧ y = 0.0) := by
  rw [sameConstant_iff_agree] at h
  generalize hx : unpack x = u at h
  generalize hy : unpack y = v at h
  cases h with
  | refl => exact .inl (unpack_injective (hx.trans hy.symm))
  | zero s t =>
    rcases eq_zero_of_unpack hx with rfl | rfl
    · rcases eq_zero_of_unpack hy with rfl | rfl
      · exact .inl rfl
      · exact .inr (.inl ⟨rfl, rfl⟩)
    · rcases eq_zero_of_unpack hy with rfl | rfl
      · exact .inr (.inr ⟨rfl, rfl⟩)
      · exact .inl rfl

theorem eq_of_sameConstant (h : sameConstant x y) (hzero : ¬x == 0.0) : x = y := by
  rcases eq_or_zeros h with heq | ⟨rfl, -⟩ | ⟨rfl, -⟩
  · exact heq
  · exact absurd (beq_zero_iff.2 ⟨.positive, rfl⟩) hzero
  · exact absurd (beq_zero_iff.2 ⟨.negative, rfl⟩) hzero

theorem not_below_zero (h : x == 0.0) : ¬Arithmetic.below x 0.0 := by
  intro hneg
  have hlt := (lt_congr h 0.0).1 (of_decide_eq_true hneg)
  exact lt_irrefl _ (lt_iff.1 hlt).2.2

instance partialEquivBEq : PartialEquivBEq Float where
  symm := beq_symm
  trans := beq_trans

theorem map_congr_of_zeros {f : Float → Float} (hzeros : sameConstant (f 0.0) (f (-0.0)))
    (h : sameConstant x y) : sameConstant (f x) (f y) := by
  rcases eq_or_zeros h with rfl | ⟨rfl, rfl⟩ | ⟨rfl, rfl⟩
  · exact sameConstant_refl _
  · exact hzeros
  · exact sameConstant_symm hzeros

theorem text_congr_of_sameConstant (h : sameConstant x y) : Number.text x = Number.text y := by
  by_cases hzero : x == 0.0
  · exact text_congr (BEq.trans hzero (BEq.symm ((sameConstant_beq_left h _).symm.trans hzero)))
  · rw [eq_of_sameConstant h hzero]

theorem div_zero_eq (hu : u = .notANumber ∨ ∃ s, u = .zero s) (s : UnpackedFloat.Sign) :
    u.div format (.zero s) = .notANumber := by
  rcases hu with rfl | ⟨t, rfl⟩
  · rfl
  · rfl

theorem Agree.notANumber_or_zero (h : Agree u v) (hu : u = .notANumber ∨ ∃ s, u = .zero s) :
    v = .notANumber ∨ ∃ s, v = .zero s := by
  cases h with
  | refl => exact hu
  | zero s t => exact .inr ⟨t, rfl⟩

/-- The quotient of a zero, or of what is undefined, by a zero is undefined. -/
theorem div_congr_of_not_shown (hu : Agree u u') (hv : Agree v v')
    (hshown : (∃ s, v = .zero s) → u = .notANumber ∨ ∃ s, u = .zero s) :
    Agree (u.div format v) (u'.div format v') := by
  by_cases hzero : ∃ s, v = .zero s
  · have hu' := hu.notANumber_or_zero (hshown hzero)
    obtain ⟨s, rfl⟩ := hzero
    rw [div_zero_eq (hshown ⟨s, rfl⟩)]
    cases hv with
    | refl =>
      rw [div_zero_eq hu']
      exact .refl _
    | zero _ t =>
      rw [div_zero_eq hu']
      exact .refl _
  · exact div_congr hu hv fun s hs => hzero ⟨s, hs⟩

/-- Sine, cosine and tangent have values at the two zeros that differ at most as zeros do. -/
class Trigonometry.ZeroBlind (t : Trigonometry) : Prop where
  sin_zeros : sameConstant (t.sin 0.0) (t.sin (-0.0))
  cos_zeros : sameConstant (t.cos 0.0) (t.cos (-0.0))
  tan_zeros : sameConstant (t.tan 0.0) (t.tan (-0.0))

instance (t : Trigonometry) : Written (WithTrigonometry t) := inferInstanceAs (Written Float)

instance (t : Trigonometry) [t.ZeroBlind] : ZeroBlind (WithTrigonometry t) where
  symm := beq_symm
  trans := beq_trans
  eq_of_sameConstant := eq_of_sameConstant
  not_below_zero := not_below_zero
  text_congr := text_congr_of_sameConstant
  sign_congr s {a b} h := by
    cases s with
    | plus => exact h
    | minus => exact sameConstant_pack (neg_congr (sameConstant_iff_agree.1 h))
  binary_congr op {a b c d} h h' hshows := by
    have hac := sameConstant_iff_agree.1 h
    have hbd := sameConstant_iff_agree.1 h'
    cases op with
    | add => exact sameConstant_pack (add_congr hac hbd)
    | sub => exact sameConstant_pack (sub_congr hac hbd)
    | mul => exact sameConstant_pack (mul_congr hac hbd)
    | div =>
      refine sameConstant_pack (div_congr_of_not_shown hac hbd fun hb => ?_)
      by_contra ha
      obtain ⟨hnumber, hzero⟩ := not_or.1 ha
      exact hshows ⟨rfl, beq_zero_iff.2 hb, beq_iff.2 ⟨.refl _, hnumber⟩, fun h =>
        hzero (beq_zero_iff.1 h)⟩
  apply_congr f {a b} hcot h := by
    cases f with
    | sqrt => exact sameConstant_pack (sqrt_congr (sameConstant_iff_agree.1 h))
    | sin => exact map_congr_of_zeros Trigonometry.ZeroBlind.sin_zeros h
    | cos => exact map_congr_of_zeros Trigonometry.ZeroBlind.cos_zeros h
    | tan => exact map_congr_of_zeros Trigonometry.ZeroBlind.tan_zeros h
    | cot => exact absurd rfl hcot

end Formulae.Number.Double
