import Formulae.Number.Arithmetic
import Formulae.Proofs.Double.Nearness

/-! How doubles compare. Equal ones are the same but for the sign of a zero, and finite ones are
equal exactly when they have the same value. -/
namespace Formulae.Number.Double
open Float.Model (UnpackedFloat)

variable {x y z : Float} {u v w : UnpackedFloat}

/-- Equal but for the sign of a zero. -/
inductive Agree : UnpackedFloat → UnpackedFloat → Prop where
  | refl (u : UnpackedFloat) : Agree u u
  | zero (s t : UnpackedFloat.Sign) : Agree (.zero s) (.zero t)

theorem Agree.symm (h : Agree u v) : Agree v u := by
  cases h with
  | refl => exact .refl _
  | zero s t => exact .zero t s

theorem Agree.trans (h : Agree u v) (h' : Agree v w) : Agree u w := by
  cases h with
  | refl => exact h'
  | zero s t =>
    cases h' with
    | refl => exact .zero s t
    | zero t r => exact .zero s r

theorem Agree.notANumber_iff (h : Agree u v) : u = .notANumber ↔ v = .notANumber := by
  cases h with
  | refl => exact Iff.rfl
  | zero s t => exact ⟨nofun, nofun⟩

theorem compare_sign_eq_iff (s t : UnpackedFloat.Sign) : compare s t = .eq ↔ s = t := by
  cases s <;> cases t <;> first | exact ⟨fun _ => rfl, fun _ => rfl⟩ | exact ⟨nofun, nofun⟩

theorem compare_eq_some_eq_iff :
    u.compare v = some .eq ↔ Agree u v ∧ u ≠ .notANumber := by
  constructor
  · intro h
    cases u with
    | notANumber => cases h
    | infinity s =>
      cases v with
      | infinity t =>
        rw [(compare_sign_eq_iff s t).1 (Option.some.inj h)]
        exact ⟨.refl _, nofun⟩
      | _ => cases s <;> cases h
    | zero s =>
      cases v with
      | zero t => exact ⟨.zero s t, nofun⟩
      | infinity t => cases t <;> cases h
      | finite t n f hn => cases t <;> cases h
      | notANumber => cases h
    | finite s m e hm =>
      cases v with
      | finite t n f hn =>
        cases s <;> cases t <;> simp [UnpackedFloat.compare, Ordering.then_eq_eq] at h
        · obtain ⟨rfl, rfl⟩ := h
          exact ⟨.refl _, nofun⟩
        · obtain ⟨rfl, rfl⟩ := h
          exact ⟨.refl _, nofun⟩
      | infinity t => cases s <;> cases t <;> cases h
      | zero t => cases s <;> cases h
      | notANumber => cases s <;> cases h
  · rintro ⟨hagree, hnumber⟩
    cases hagree with
    | zero s t => rfl
    | refl =>
      cases u with
      | notANumber => exact absurd rfl hnumber
      | infinity s => cases s <;> rfl
      | zero s => rfl
      | finite s m e hm => cases s <;> simp [UnpackedFloat.compare]

theorem beq_iff : x == y ↔ Agree (unpack x) (unpack y) ∧ unpack x ≠ .notANumber := by
  have hbeq : (x == y) = ((unpack x).compare (unpack y) == some .eq) := rfl
  rw [hbeq, beq_iff_eq, compare_eq_some_eq_iff]

theorem compare_congr (h : Agree u v) (w : UnpackedFloat) : u.compare w = v.compare w := by
  cases h with
  | refl => rfl
  | zero s t =>
    cases w with
    | notANumber => rfl
    | infinity r => cases r <;> rfl
    | zero r => rfl
    | finite r m e hm => cases r <;> rfl

theorem rational_zero (s : UnpackedFloat.Sign) : (ofUnpacked (.zero s)).rational? = some 0 := by
  cases s <;> decide +kernel

theorem rational_congr (h : Agree u v) :
    (ofUnpacked u).rational? = (ofUnpacked v).rational? := by
  cases h with
  | refl => rfl
  | zero s t => rw [rational_zero, rational_zero]

theorem isFinite_cases (h : Arithmetic.isFinite x) : (∃ s, unpack x = .zero s) ∨
    ∃ s m e hm, unpack x = .finite s m e hm ∧ Canonical m e := by
  have hparts : (ofUnpacked (unpack x)).rational?.isSome := by
    rw [← parts_eq_ofUnpacked]
    exact h
  cases hx : unpack x with
  | notANumber => simp [hx, ofUnpacked, Binary64.Parts.rational?] at hparts
  | infinity s => simp [hx, ofUnpacked, Binary64.Parts.rational?] at hparts
  | zero s => exact .inl ⟨s, rfl⟩
  | finite s m e hm => exact .inr ⟨s, m, e, hm, rfl, canonical_of_unpack hx⟩

theorem rational_eq (x : Float) : Arithmetic.rational? x = (ofUnpacked (unpack x)).rational? := by
  rw [← parts_eq_ofUnpacked]
  rfl

theorem beq_of_agree (h : Agree (unpack x) (unpack y)) (hx : Arithmetic.isFinite x) : x == y := by
  refine beq_iff.2 ⟨h, ?_⟩
  intro hnan
  rcases isFinite_cases hx with ⟨s, hs⟩ | ⟨s, m, e, hm, hs, -⟩
  · cases hnan.symm.trans hs
  · cases hnan.symm.trans hs

theorem rational_finite (s : UnpackedFloat.Sign) (m : Nat) (e : Int) (hm : 0 < m) :
    (ofUnpacked (.finite s m e hm)).rational? = some ((s.apply m : Int) * (2 : Rat) ^ e) := by
  cases s <;> exact congrArg some (dyadic_eq _ e)

theorem value_pos {m : Nat} (hm : 0 < m) (e : Int) : 0 < (m : Rat) * 2 ^ e :=
  mul_pos (by exact_mod_cast hm) (zpow_pos (by norm_num) e)

theorem value_ne_zero (s : UnpackedFloat.Sign) {m : Nat} (hm : 0 < m) (e : Int) :
    ((s.apply m : Int) : Rat) * 2 ^ e ≠ 0 := by
  have hpos := value_pos hm e
  cases s with
  | positive =>
    simp only [UnpackedFloat.Sign.apply, Int.cast_natCast]
    exact hpos.ne'
  | negative =>
    simp only [UnpackedFloat.Sign.apply, Int.cast_neg, Int.cast_natCast, neg_mul]
    exact (neg_neg_of_pos hpos).ne

theorem finite_eq_of_value_eq {s t : UnpackedFloat.Sign} {m n : Nat} {e f : Int} {hm : 0 < m}
    {hn : 0 < n} (h : Canonical m e) (h' : Canonical n f)
    (heq : ((s.apply m : Int) : Rat) * 2 ^ e = (t.apply n : Int) * 2 ^ f) :
    UnpackedFloat.finite s m e hm = .finite t n f hn := by
  have hpos := value_pos hm e
  have hpos' := value_pos hn f
  cases s with
  | positive =>
    cases t with
    | positive =>
      simp only [UnpackedFloat.Sign.apply, Int.cast_natCast] at heq
      obtain ⟨rfl, rfl⟩ := parts_eq_of_value_eq h h' hm hn heq
      rfl
    | negative =>
      simp only [UnpackedFloat.Sign.apply, Int.cast_neg, Int.cast_natCast] at heq
      linarith
  | negative =>
    cases t with
    | positive =>
      simp only [UnpackedFloat.Sign.apply, Int.cast_neg, Int.cast_natCast] at heq
      linarith
    | negative =>
      simp only [UnpackedFloat.Sign.apply, Int.cast_neg, Int.cast_natCast, neg_mul,
        neg_inj] at heq
      obtain ⟨rfl, rfl⟩ := parts_eq_of_value_eq h h' hm hn heq
      rfl

theorem agree_of_rational {r : Rat} (hx : Arithmetic.rational? x = some r)
    (hy : Arithmetic.rational? y = some r) : Agree (unpack x) (unpack y) := by
  have hfx := isFinite_cases (Option.isSome_iff_exists.2 ⟨r, hx⟩)
  have hfy := isFinite_cases (Option.isSome_iff_exists.2 ⟨r, hy⟩)
  rw [rational_eq] at hx hy
  rcases hfx with ⟨s, hs⟩ | ⟨s, m, e, hm, hs, hcanonical⟩
  · rw [hs, rational_zero] at hx
    cases hx
    rcases hfy with ⟨t, ht⟩ | ⟨t, n, f, hn, ht, -⟩
    · rw [hs, ht]
      exact .zero s t
    · rw [ht, rational_finite] at hy
      exact absurd (Option.some.inj hy) (value_ne_zero t hn f)
  · rw [hs, rational_finite] at hx
    cases hx
    rcases hfy with ⟨t, ht⟩ | ⟨t, n, f, hn, ht, hcanonical'⟩
    · rw [ht, rational_zero] at hy
      exact absurd (Option.some.inj hy).symm (value_ne_zero s hm e)
    · rw [ht, rational_finite] at hy
      rw [hs, ht, finite_eq_of_value_eq hcanonical hcanonical' (Option.some.inj hy).symm]
      exact .refl _

theorem beq_symm (h : x == y) : y == x := by
  obtain ⟨hagree, hnumber⟩ := beq_iff.1 h
  exact beq_iff.2 ⟨hagree.symm, fun hnan => hnumber (hagree.notANumber_iff.2 hnan)⟩

theorem beq_trans (h : x == y) (h' : y == z) : x == z :=
  beq_iff.2 ⟨(beq_iff.1 h).1.trans (beq_iff.1 h').1, (beq_iff.1 h).2⟩

theorem lt_congr (h : x == y) (z : Float) : x < z ↔ y < z := by
  have hlt (x : Float) : x < z ↔ ((unpack x).compare (unpack z) == some .lt) = true :=
    decide_eq_true_iff
  rw [hlt, hlt, compare_congr (beq_iff.1 h).1]

end Formulae.Number.Double
