import Formulae.Proofs.Double.Comparison
import Formulae.Proofs.LawfulArithmetic

/-! The arithmetic of doubles is lawful: equality compares values, operations with a neutral or
absorbing element are exact, and no operation tells the two zeros apart as long as its result is
finite. Sine, cosine and tangent are whatever they are given as; all that is asked of them is to
agree at the two zeros. -/
namespace Formulae.Number.Double
open Float.Model (UnpackedFloat totalExponent)
open Float.Model.UnpackedFloat (ExtendedMantissa roundWithAccuracy shiftToExponent
  shiftToTargetExponent)

variable {x y : Float} {u v u' v' : UnpackedFloat}

theorem neg_congr (h : Agree u v) : Agree u.neg v.neg := by
  cases h with
  | refl => exact .refl _
  | zero s t => exact .zero _ _

theorem sqrt_congr (h : Agree u v) : Agree (u.sqrt format) (v.sqrt format) := by
  cases h with
  | refl => exact .refl _
  | zero s t => exact .zero _ _

theorem binary_congr {f : UnpackedFloat → UnpackedFloat → UnpackedFloat}
    (left : ∀ s t v, Agree (f (.zero s) v) (f (.zero t) v))
    (right : ∀ s t v, Agree (f v (.zero s)) (f v (.zero t)))
    (hu : Agree u u') (hv : Agree v v') : Agree (f u v) (f u' v') := by
  cases hu with
  | refl =>
    cases hv with
    | refl => exact .refl _
    | zero s t => exact right s t u
  | zero s t =>
    cases hv with
    | refl => exact left s t v
    | zero r q => exact (left s t _).trans (right r q _)

theorem add_congr (hu : Agree u u') (hv : Agree v v') :
    Agree (u.add format v) (u'.add format v') := by
  refine binary_congr ?_ ?_ hu hv
  · intro s t v
    cases v with
    | zero r => cases s <;> cases t <;> cases r <;> exact .zero _ _
    | _ => exact .refl _
  · intro s t v
    cases v with
    | zero r => cases s <;> cases t <;> cases r <;> exact .zero _ _
    | _ => exact .refl _

theorem apply_neg (s : UnpackedFloat.Sign) (n : Int) : (-s).apply n = -s.apply n := by
  cases s with
  | positive => rfl
  | negative => exact (Int.neg_neg n).symm

theorem sub_eq_add_neg (u v : UnpackedFloat) : u.sub format v = u.add format v.neg := by
  cases u with
  | finite s m e hm =>
    cases v with
    | finite t n f hn =>
      unfold UnpackedFloat.sub UnpackedFloat.add UnpackedFloat.neg
      dsimp only
      rw [apply_neg, ← Int.sub_eq_add_neg]
    | _ => rfl
  | _ => cases v <;> rfl

theorem sub_congr (hu : Agree u u') (hv : Agree v v') :
    Agree (u.sub format v) (u'.sub format v') := by
  rw [sub_eq_add_neg, sub_eq_add_neg]
  exact add_congr hu (neg_congr hv)

theorem mul_congr (hu : Agree u u') (hv : Agree v v') :
    Agree (u.mul format v) (u'.mul format v') := by
  refine binary_congr ?_ ?_ hu hv
  · intro s t v
    cases v with
    | zero r => exact .zero _ _
    | finite r m e hm => exact .zero _ _
    | _ => exact .refl _
  · intro s t v
    cases v with
    | zero r => exact .zero _ _
    | finite r m e hm => exact .zero _ _
    | _ => exact .refl _

/-- The sign of a zero divisor shows in the quotient, that of a zero dividend only in a zero. -/
theorem div_congr (hu : Agree u u') (hv : Agree v v') (hdivisor : ∀ s, v ≠ .zero s) :
    Agree (u.div format v) (u'.div format v') := by
  cases hv with
  | zero s t => exact absurd rfl (hdivisor s)
  | refl =>
    cases hu with
    | refl => exact .refl _
    | zero s t =>
      cases v with
      | notANumber => exact .refl _
      | zero r => exact .refl _
      | infinity r => exact .zero _ _
      | finite r m e hm => exact .zero _ _

theorem unpack_zero : unpack 0.0 = .zero .positive := rfl

theorem add_zero_agree (u : UnpackedFloat) : Agree (u.add format (unpack 0.0)) u := by
  rw [unpack_zero]
  cases u with
  | zero s => cases s <;> exact .zero _ _
  | _ => exact .refl _

theorem zero_add_agree (u : UnpackedFloat) : Agree ((unpack 0.0).add format u) u := by
  rw [unpack_zero]
  cases u with
  | zero s => cases s <;> exact .zero _ _
  | _ => exact .refl _

theorem repeat_shiftRightOne (m k : Nat) :
    k.repeat ExtendedMantissa.shiftRightOne ⟨m * 2 ^ k, false, false⟩ = ⟨m, false, false⟩ := by
  induction k generalizing m with
  | zero => rw [Nat.pow_zero, Nat.mul_one, Nat.repeat]
  | succ k ih =>
    rw [Nat.repeat, Nat.pow_succ', ← Nat.mul_assoc, ih]
    simp [ExtendedMantissa.shiftRightOne]

theorem log2_shifted {m : Nat} (hm : 0 < m) (k : Nat) : (m * 2 ^ k).log2 = m.log2 + k := by
  have hlog := (Nat.log2_eq_iff hm.ne').1 rfl
  rw [Nat.log2_eq_iff (Nat.mul_pos hm (Nat.two_pow_pos k)).ne', Nat.pow_add, Nat.add_right_comm,
    Nat.pow_add]
  exact ⟨Nat.mul_le_mul_right _ hlog.1, Nat.mul_lt_mul_of_pos_right hlog.2 (Nat.two_pow_pos k)⟩

theorem targetExponent_of_canonical {m : Nat} {e : Int} (h : Canonical m e) (hm : 0 < m) :
    format.targetExponent (m.log2 + 1 + e) = e := by
  have hge := h.exponent_ge
  have hlog : m.log2 < 53 := (Nat.log2_lt hm.ne').2 h.mantissa_lt
  change max (m.log2 + 1 + e - 53) (-1074) = e
  rcases h.normal with hnormal | hleast
  · have : 52 ≤ m.log2 := (Nat.le_log2 hm.ne').2 hnormal
    omega
  · omega

theorem shift_of_canonical {m : Nat} {e : Int} (h : Canonical m e) (hm : 0 < m) (k : Nat) :
    shiftToTargetExponent format (m * 2 ^ k) (e - k) .exact = (⟨m, false, false⟩, e) := by
  have htarget : format.targetExponent (totalExponent (m * 2 ^ k) (e - k)) = e := by
    rw [totalExponent, log2_shifted hm, ← targetExponent_of_canonical h hm]
    congr 1
    push_cast
    have := targetExponent_of_canonical h hm
    omega
  unfold shiftToTargetExponent
  dsimp only
  rw [htarget]
  unfold shiftToExponent
  dsimp only
  have hshift : (e - (e - k)).toNat = k := by omega
  rw [hshift, Int.sub_add_cancel]
  exact congrArg (·, e) (repeat_shiftRightOne m k)

/-- Rounding keeps a double that was written with a longer mantissa. -/
theorem round_of_canonical {m : Nat} {e : Int} (h : Canonical m e) (hm : 0 < m) (k : Nat)
    (s : UnpackedFloat.Sign) :
    roundWithAccuracy format s (m * 2 ^ k) (e - k) .exact = .finite s m e hm := by
  have hagain := shift_of_canonical h hm 0
  rw [Nat.pow_zero, Nat.mul_one, Int.natCast_zero, Int.sub_zero] at hagain
  unfold roundWithAccuracy
  rw [shift_of_canonical h hm k]
  dsimp only
  have hrounded : (⟨m, false, false⟩ : ExtendedMantissa).roundedMantissa = m := rfl
  simp only [hrounded, hagain]
  rw [dif_neg hm.ne']

theorem unpack_one : unpack 1.0 = .finite .positive (2 ^ 52) (-52) (by decide) := rfl

theorem mul_one_of_canonical {m : Nat} {e : Int} (h : Canonical m e) (hm : 0 < m)
    (s : UnpackedFloat.Sign) :
    UnpackedFloat.mul format (.finite s m e hm) (unpack 1.0) = .finite s m e hm := by
  have hsign : s * .positive = s := by cases s <;> rfl
  rw [unpack_one]
  unfold UnpackedFloat.mul
  dsimp only
  rw [hsign]
  exact round_of_canonical h hm 52 s

theorem one_mul_of_canonical {m : Nat} {e : Int} (h : Canonical m e) (hm : 0 < m)
    (s : UnpackedFloat.Sign) :
    UnpackedFloat.mul format (unpack 1.0) (.finite s m e hm) = .finite s m e hm := by
  have hsign : .positive * s = s := by cases s <;> rfl
  rw [unpack_one]
  unfold UnpackedFloat.mul
  dsimp only
  rw [hsign, Nat.mul_comm, Int.add_comm]
  exact round_of_canonical h hm 52 s

theorem divCore_one {m : Nat} {e : Int} (h : Canonical m e) (hm : 0 < m) :
    ∃ k : Nat, UnpackedFloat.divCore format m e (2 ^ 52) (-52) = (m * 2 ^ k, e - k, .exact) := by
  have hge := h.exponent_ge
  have hlog : m.log2 < 53 := (Nat.log2_lt hm.ne').2 h.mantissa_lt
  have hone : totalExponent (2 ^ 52) (-52) = 1 := by decide
  obtain ⟨k, hk⟩ : ∃ k : Nat,
      min (e - -52) (format.targetExponent (totalExponent m e - 1)) = e - k := by
    change ∃ k : Nat, min (e - -52) (max (m.log2 + 1 + e - 1 - 53) (-1074)) = e - k
    exact ⟨(e - min (e - -52) (max (m.log2 + 1 + e - 1 - 53) (-1074))).toNat, by omega⟩
  refine ⟨k, ?_⟩
  unfold UnpackedFloat.divCore
  rw [hone, hk]
  have hshift : (e - -52 - (e - k)).toNat = k + 52 := by omega
  simp only [hshift, Nat.shiftLeft_eq, Nat.pow_add, ← Nat.mul_assoc]
  rw [Nat.mul_div_cancel _ (by decide), Nat.mul_mod_left]
  rfl

theorem div_one_of_canonical {m : Nat} {e : Int} (h : Canonical m e) (hm : 0 < m)
    (s : UnpackedFloat.Sign) :
    UnpackedFloat.div format (.finite s m e hm) (unpack 1.0) = .finite s m e hm := by
  obtain ⟨k, hk⟩ := divCore_one h hm
  have hsign : s / .positive = s := by cases s <;> rfl
  rw [unpack_one]
  unfold UnpackedFloat.div
  dsimp only
  rw [hk, hsign]
  exact round_of_canonical h hm k s

theorem sub_self_finite (s : UnpackedFloat.Sign) (m : Nat) (e : Int) (hm : 0 < m) :
    UnpackedFloat.sub format (.finite s m e hm) (.finite s m e hm) = .zero .positive := by
  unfold UnpackedFloat.sub
  dsimp only
  rw [Int.sub_self]
  rfl

theorem pack_beq_of_agree (h : Agree u v) (hu : Arithmetic.isFinite (pack u)) :
    pack u == pack v := by
  cases h with
  | refl => exact beq_of_agree (.refl _) hu
  | zero s t =>
    refine beq_of_agree ?_ hu
    rw [unpack_pack_zero, unpack_pack_zero]
    exact .zero s t

theorem isFinite_zero : Arithmetic.isFinite (0.0 : Float) := by decide +kernel

theorem pack_beq (h : Agree u (unpack y)) (hy : Arithmetic.isFinite y) : pack u == y := by
  have hequal := pack_beq_of_agree h.symm (by rwa [pack_unpack])
  rw [pack_unpack] at hequal
  exact beq_symm hequal

theorem mul_zero_agree (h : Arithmetic.isFinite x) :
    Agree ((unpack x).mul format (unpack 0.0)) (unpack 0.0) ∧
      Agree ((unpack 0.0).mul format (unpack x)) (unpack 0.0) := by
  rw [unpack_zero]
  rcases isFinite_cases h with ⟨s, hs⟩ | ⟨s, m, e, hm, hs, -⟩
  · rw [hs]
    exact ⟨.zero _ _, .zero _ _⟩
  · rw [hs]
    exact ⟨.zero _ _, .zero _ _⟩

theorem sub_agree (hx : Arithmetic.isFinite x) (h : Agree (unpack x) (unpack y)) :
    Agree ((unpack x).sub format (unpack y)) (unpack 0.0) := by
  rw [unpack_zero]
  refine (sub_congr (.refl _) h.symm).trans ?_
  rcases isFinite_cases hx with ⟨s, hs⟩ | ⟨s, m, e, hm, hs, -⟩
  · rw [hs]
    cases s <;> exact .zero _ _
  · rw [hs, sub_self_finite]
    exact .refl _

theorem mul_one_agree (h : Arithmetic.isFinite x) :
    Agree ((unpack x).mul format (unpack 1.0)) (unpack x) ∧
      Agree ((unpack 1.0).mul format (unpack x)) (unpack x) := by
  rcases isFinite_cases h with ⟨s, hs⟩ | ⟨s, m, e, hm, hs, hcanonical⟩
  · rw [hs]
    exact ⟨.zero _ _, .zero _ _⟩
  · rw [hs, mul_one_of_canonical hcanonical, one_mul_of_canonical hcanonical]
    exact ⟨.refl _, .refl _⟩

theorem div_one_agree (h : Arithmetic.isFinite x) :
    Agree ((unpack x).div format (unpack 1.0)) (unpack x) := by
  rcases isFinite_cases h with ⟨s, hs⟩ | ⟨s, m, e, hm, hs, hcanonical⟩
  · rw [hs]
    exact .zero _ _
  · rw [hs, div_one_of_canonical hcanonical]
    exact .refl _

theorem beq_zero_iff : x == 0.0 ↔ ∃ s, unpack x = .zero s := by
  rw [beq_iff, unpack_zero]
  constructor
  · rintro ⟨hagree, -⟩
    generalize unpack x = u at hagree
    cases hagree with
    | refl => exact ⟨_, rfl⟩
    | zero s _ => exact ⟨s, rfl⟩
  · rintro ⟨s, hs⟩
    rw [hs]
    exact ⟨.zero _ _, nofun⟩

structure Trigonometry where
  sin : Float → Float
  cos : Float → Float
  tan : Float → Float

/-- None of the functions, nor the cotangent, tells equal doubles apart by a finite value. -/
class Trigonometry.Lawful (t : Trigonometry) : Prop where
  sin_congr {x y : Float} : x == y → Arithmetic.isFinite (t.sin x) → t.sin x == t.sin y
  cos_congr {x y : Float} : x == y → Arithmetic.isFinite (t.cos x) → t.cos x == t.cos y
  tan_congr {x y : Float} : x == y → Arithmetic.isFinite (t.tan x) → t.tan x == t.tan y
  cot_congr {x y : Float} :
    x == y → Arithmetic.isFinite (1.0 / t.tan x) → 1.0 / t.tan x == 1.0 / t.tan y

def WithTrigonometry (_ : Trigonometry) : Type := Float

instance (t : Trigonometry) : Arithmetic (WithTrigonometry t) :=
  { (inferInstance : Arithmetic Float) with sin := t.sin, cos := t.cos, tan := t.tan }

def native : Trigonometry := ⟨Float.sin, Float.cos, Float.tan⟩

/-- Doubles are lawful with any functions that agree at the two zeros. -/
instance (t : Trigonometry) [t.Lawful] : LawfulArithmetic (WithTrigonometry t) where
  beq_symm := beq_symm
  beq_trans := beq_trans
  rational_congr {a b} h := by
    have hcongr := rational_congr (beq_iff.1 h).1
    exact (rational_eq a).trans (hcongr.trans (rational_eq b).symm)
  beq_of_rational {a b r} ha hb :=
    beq_of_agree (agree_of_rational ha hb) (Option.isSome_iff_exists.2 ⟨r, ha⟩)
  below_congr c h := decide_eq_decide.2 (lt_congr h c)
  add_zero h := pack_beq (add_zero_agree _) h
  zero_add h := pack_beq (zero_add_agree _) h
  sub_eq_zero h heq := pack_beq (sub_agree h (beq_iff.1 heq).1) isFinite_zero
  mul_one h := pack_beq (mul_one_agree h).1 h
  one_mul h := pack_beq (mul_one_agree h).2 h
  mul_zero h := pack_beq (mul_zero_agree h).1 isFinite_zero
  zero_mul h := pack_beq (mul_zero_agree h).2 isFinite_zero
  div_one h := pack_beq (div_one_agree h) h
  sign_congr s {a b} h hfinite := by
    cases s with
    | plus => exact h
    | minus => exact pack_beq_of_agree (neg_congr (beq_iff.1 h).1) hfinite
  binary_congr op {a b c d} h h' hdivisor hfinite := by
    have hac := (beq_iff.1 h).1
    have hbd := (beq_iff.1 h').1
    cases op with
    | add => exact pack_beq_of_agree (add_congr hac hbd) hfinite
    | sub => exact pack_beq_of_agree (sub_congr hac hbd) hfinite
    | mul => exact pack_beq_of_agree (mul_congr hac hbd) hfinite
    | div =>
      have hb : ∀ s, unpack b ≠ .zero s := fun s hs => hdivisor ⟨rfl, beq_zero_iff.2 ⟨s, hs⟩⟩
      exact pack_beq_of_agree (div_congr hac hbd hb) hfinite
  apply_congr f {a b} h hfinite := by
    cases f with
    | sqrt => exact pack_beq_of_agree (sqrt_congr (beq_iff.1 h).1) hfinite
    | sin => exact Trigonometry.Lawful.sin_congr h hfinite
    | cos => exact Trigonometry.Lawful.cos_congr h hfinite
    | tan => exact Trigonometry.Lawful.tan_congr h hfinite
    | cot => exact Trigonometry.Lawful.cot_congr h hfinite

instance [native.Lawful] : LawfulArithmetic Float :=
  inferInstanceAs (LawfulArithmetic (WithTrigonometry native))

end Formulae.Number.Double
