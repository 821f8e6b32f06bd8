import Formulae.Proofs.Double.Comparison
import Formulae.Proofs.OrderedArithmetic

/-! The order of doubles: the defined ones stand in a row, from the negative infinity through the
two zeros, which share a place, to the positive one. -/
namespace Formulae.Number.Double
open Float.Model (UnpackedFloat)

variable {x y z : Float} {u v : UnpackedFloat}

/-- The place of a double in the row: its region, then exponent and mantissa, which count downwards
below zero. -/
def place : UnpackedFloat → Int ×ₗ Int ×ₗ Int
  | .notANumber | .zero _ => toLex (0, toLex (0, 0))
  | .infinity .negative => toLex (-2, toLex (0, 0))
  | .finite .negative m e _ => toLex (-1, toLex (-e, -m))
  | .finite .positive m e _ => toLex (1, toLex (e, m))
  | .infinity .positive => toLex (2, toLex (0, 0))

theorem compare_negative_positive : compare UnpackedFloat.Sign.negative .positive = .lt := rfl

theorem compare_eq_some_lt_iff : u.compare v = some .lt ↔
    u ≠ .notANumber ∧ v ≠ .notANumber ∧ place u < place v := by
  cases u with
  | notANumber => simp [UnpackedFloat.compare]
  | infinity s =>
    cases v with
    | notANumber => simp [UnpackedFloat.compare]
    | infinity t =>
      cases s <;> cases t <;>
        simp [UnpackedFloat.compare, place, Prod.Lex.toLex_lt_toLex, compare_negative_positive]
    | zero t => cases s <;> simp [UnpackedFloat.compare, place, Prod.Lex.toLex_lt_toLex]
    | finite t n f hn =>
      cases s <;> cases t <;> simp [UnpackedFloat.compare, place, Prod.Lex.toLex_lt_toLex]
  | zero s =>
    cases v with
    | notANumber => simp [UnpackedFloat.compare]
    | zero t => simp [UnpackedFloat.compare, place]
    | infinity t | finite t =>
      cases t <;> simp [UnpackedFloat.compare, place, Prod.Lex.toLex_lt_toLex]
  | finite s m e hm =>
    cases v with
    | notANumber => cases s <;> simp [UnpackedFloat.compare]
    | zero t => cases s <;> simp [UnpackedFloat.compare, place, Prod.Lex.toLex_lt_toLex]
    | infinity t =>
      cases s <;> cases t <;> simp [UnpackedFloat.compare, place, Prod.Lex.toLex_lt_toLex]
    | finite t n f hn =>
      cases s <;> cases t <;> simp [UnpackedFloat.compare, place, Prod.Lex.toLex_lt_toLex,
        Ordering.then_eq_lt, Ordering.then_eq_gt, compare_lt_iff_lt, compare_gt_iff_gt]

theorem lt_iff : x < y ↔
    unpack x ≠ .notANumber ∧ unpack y ≠ .notANumber ∧ place (unpack x) < place (unpack y) := by
  have hlt : x < y ↔ ((unpack x).compare (unpack y) == some .lt) = true := decide_eq_true_iff
  rw [hlt, beq_iff_eq, compare_eq_some_lt_iff]

theorem isUndefined_iff : Arithmetic.isUndefined x ↔ unpack x = .notANumber := by
  have hself : x == x ↔ unpack x ≠ .notANumber := beq_iff.trans (and_iff_right (.refl _))
  rw [Arithmetic.isUndefined, Bool.not_eq_true', ← Bool.not_eq_true, hself, not_not]

instance : OrderedArithmetic Float where
  below_trans {a b c} hab hbc := by
    obtain ⟨ha, -, hab⟩ := lt_iff.1 (of_decide_eq_true hab)
    obtain ⟨-, hc, hbc⟩ := lt_iff.1 (of_decide_eq_true hbc)
    exact decide_eq_true (lt_iff.2 ⟨ha, hc, hab.trans hbc⟩)
  below_or_below {a c} b hac hdefined := by
    obtain ⟨ha, hc, hac⟩ := lt_iff.1 (of_decide_eq_true hac)
    have hb : unpack b ≠ .notANumber := fun h => hdefined (isUndefined_iff.2 h)
    rcases lt_or_ge (place (unpack a)) (place (unpack b)) with hab | hba
    · exact .inl (decide_eq_true (lt_iff.2 ⟨ha, hb, hab⟩))
    · exact .inr (decide_eq_true (lt_iff.2 ⟨hb, hc, hba.trans_lt hac⟩))
  not_isUndefined_of_below hab hundefined :=
    (lt_iff.1 (of_decide_eq_true hab)).1 (isUndefined_iff.1 hundefined)

end Formulae.Number.Double
