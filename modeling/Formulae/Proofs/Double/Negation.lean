import Formulae.Proofs.Double.Laws

/-! The opposite of a double is exact: it differs in the sign alone. -/
namespace Formulae.Number.Double
open Float.Model (UnpackedFloat)
open Float.Model.UnpackedFloat (packComponents unpackSign)

theorem ofBitVec_unpackSign {f : Float.Model.Format} (s : UnpackedFloat.Sign)
    (e : BitVec f.exponentBits) (m : BitVec f.mantissaBitsWithoutImplicit) :
    UnpackedFloat.Sign.ofBitVec (unpackSign (packComponents f s e m)) = s := by
  have hsign : unpackSign (packComponents f s e m) = s.toBitVec := by
    apply BitVec.eq_of_getLsbD_eq
    intro i hi
    obtain rfl : i = 0 := by omega
    simp [unpackSign, packComponents, BitVec.getLsbD_append, BitVec.getElem_append]
  rw [hsign]
  cases s <;> rfl

theorem unpack_components_neg (s : UnpackedFloat.Sign) (e : BitVec format.exponentBits)
    (m : BitVec format.mantissaBitsWithoutImplicit) :
    UnpackedFloat.unpack format (packComponents format (-s) e m) =
      (UnpackedFloat.unpack format (packComponents format s e m)).neg := by
  unfold UnpackedFloat.unpack
  simp only [UnpackedFloat.unpackMantissa_packComponents,
    UnpackedFloat.unpackExponent_packComponents, ofBitVec_unpackSign]
  split
  · split <;> rfl
  · split
    · split <;> rfl
    · rfl

/-- The sign of a finite double is packed apart from the rest. -/
theorem exists_components (m : Nat) (e : Int) (hm : 0 < m) : ∃ f n, ∀ s,
    UnpackedFloat.pack format (.finite s m e hm) = packComponents format s f n := by
  unfold UnpackedFloat.pack
  dsimp only
  split
  · exact ⟨_, _, fun s => rfl⟩
  · split
    · exact ⟨_, _, fun s => rfl⟩
    · exact ⟨_, _, fun s => rfl⟩

theorem unpack_neg (x : Float) : unpack (-x) = (unpack x).neg := by
  have hneg : unpack (-x) = unpack (pack (unpack x).neg) := rfl
  rw [hneg]
  cases hx : unpack x with
  | notANumber => rfl
  | infinity s => cases s <;> rfl
  | zero s => exact unpack_pack_zero (-s)
  | finite s m e hm =>
    obtain ⟨f, n, hpack⟩ := exists_components m e hm
    have hself : UnpackedFloat.unpack format (UnpackedFloat.pack format (.finite s m e hm)) =
        .finite s m e hm := by
      have h := congrArg unpack (pack_unpack x)
      rw [hx] at h
      exact h
    change UnpackedFloat.unpack format (UnpackedFloat.pack format (.finite (-s) m e hm)) = _
    rw [hpack, unpack_components_neg, ← hpack, hself]

theorem rational_neg (x : Float) :
    Arithmetic.rational? (-x) = (Arithmetic.rational? x).map (-·) := by
  rw [rational_eq, rational_eq, unpack_neg]
  cases unpack x with
  | notANumber => rfl
  | infinity s => rfl
  | zero s =>
    rw [UnpackedFloat.neg, rational_zero, rational_zero]
    rfl
  | finite s m e hm =>
    rw [UnpackedFloat.neg, rational_finite, rational_finite, Option.map_some, apply_neg,
      Int.cast_neg, neg_mul]

end Formulae.Number.Double
