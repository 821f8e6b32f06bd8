import Mathlib
import Formulae.Number.Arithmetic

/-! Doubles taken apart. The arithmetic of doubles unpacks its operands and packs its result;
packing undoes unpacking, and the parts that texts are made of are the unpacked ones. -/
namespace Formulae.Number.Double
open Float.Model (UnpackedFloat)
open Float.Model.UnpackedFloat (unpackMantissa unpackExponent unpackSign packComponents)

abbrev format : Float.Model.Format := .binary64

theorem packComponents_unpack (b : BitVec format.numBits) :
    packComponents format (.ofBitVec (unpackSign b)) (unpackExponent b) (unpackMantissa b) = b := by
  have hsign (s : BitVec 1) : (UnpackedFloat.Sign.ofBitVec s).toBitVec = s := by
    revert s
    decide
  unfold packComponents
  rw [hsign]
  apply BitVec.eq_of_getLsbD_eq
  intro i hi
  simp only [unpackSign, unpackExponent, unpackMantissa, BitVec.getLsbD_append,
    BitVec.getLsbD_cast, BitVec.getLsbD_extractLsb]
  grind

theorem toNat_implicit (m : BitVec 52) : (1#1 ++ m).toNat = 2 ^ 52 + m.toNat := by
  rw [BitVec.toNat_append, ← Nat.shiftLeft_add_eq_or_of_lt m.isLt]
  simp [Nat.shiftLeft_eq]

theorem log2_implicit (m : BitVec 52) : (2 ^ 52 + m.toNat).log2 = 52 := by
  have := m.isLt
  rw [Nat.log2_eq_iff (by omega)]
  omega

theorem pack_unpack_bits (b : BitVec format.numBits) (hvalid : format.Valid b) :
    UnpackedFloat.pack format (UnpackedFloat.unpack format b) = b := by
  have hfields := packComponents_unpack b
  have hmantissa := (unpackMantissa b).isLt
  have hexponent := (unpackExponent b).isLt
  unfold UnpackedFloat.unpack
  dsimp only
  split
  · rename_i hlast
    split
    · rename_i hzero
      rw [hlast, hzero] at hfields
      exact hfields
    · rename_i hnonzero
      exact (hvalid.eq_packedNaN hlast hnonzero).symm
  · rename_i hlast
    have hlast' : (unpackExponent b).toNat ≠ 2047 := fun h => hlast (BitVec.eq_of_toNat_eq h)
    split
    · rename_i hfirst
      split
      · rename_i hzero
        rw [hfirst, hzero] at hfields
        exact hfields
      · rename_i hnonzero
        have hpos : (unpackMantissa b).toNat ≠ 0 := fun h => hnonzero (BitVec.eq_of_toNat_eq h)
        have hlog : (unpackMantissa b).toNat.log2 < 52 := (Nat.log2_lt hpos).2 hmantissa
        rw [hfirst] at hfields ⊢
        unfold UnpackedFloat.pack
        dsimp only
        rw [if_neg, if_neg]
        · rw [BitVec.ofNat_toNat]
          simpa using hfields
        · show ¬(unpackMantissa b).toNat.log2 + 1 = 53
          omega
        · decide
    · rename_i hfirst
      have hbiased : ((unpackExponent b).toNat - ((format.exponentBias : Int) +
          format.mantissaBitsWithoutImplicit) + format.exponentBias +
          format.mantissaBitsWithoutImplicit).toNat = (unpackExponent b).toNat := by
        omega
      have himplicit : BitVec.ofNat 52 (2 ^ 52 + (unpackMantissa b).toNat) = unpackMantissa b := by
        apply BitVec.eq_of_toNat_eq
        rw [BitVec.toNat_ofNat, Nat.add_mod_left, Nat.mod_eq_of_lt hmantissa]
      unfold UnpackedFloat.pack
      dsimp only
      rw [hbiased, toNat_implicit, log2_implicit, if_neg, if_pos]
      · rw [BitVec.ofNat_toNat, himplicit]
        simpa using hfields
      · rfl
      · show ¬2 ^ 11 ≤ (unpackExponent b).toNat + 1
        have : (unpackExponent b).toNat < 2048 := hexponent
        omega

def unpack (x : Float) : UnpackedFloat := x.toModel.unpack

def pack (u : UnpackedFloat) : Float := .ofModel (.pack u)

@[simp] theorem pack_unpack (x : Float) : pack (unpack x) = x := by
  obtain ⟨bits, hvalid⟩ := x
  have hbits := pack_unpack_bits bits.toBitVec hvalid
  unfold pack unpack Float.Model.pack Float.Model.unpack
  congr 2
  dsimp only
  rw [hbits]

theorem unpack_injective {x y : Float} (h : unpack x = unpack y) : x = y := by
  rw [← pack_unpack x, h, pack_unpack]

@[simp] theorem unpack_pack_zero (s : UnpackedFloat.Sign) : unpack (pack (.zero s)) = .zero s := by
  cases s <;> rfl

theorem toNat_unpackMantissa (b : BitVec format.numBits) :
    (unpackMantissa b).toNat = b.toNat % 2 ^ 52 := by
  simp [unpackMantissa]

theorem toNat_unpackExponent (b : BitVec format.numBits) :
    (unpackExponent b).toNat = b.toNat / 2 ^ 52 % 2 ^ 11 := by
  simp [unpackExponent, Nat.shiftRight_eq_div_pow]

theorem toNat_unpackSign (b : BitVec format.numBits) :
    (unpackSign b).toNat = b.toNat / 2 ^ 63 % 2 := by
  simp [unpackSign, Nat.shiftRight_eq_div_pow]

def isNegative : UnpackedFloat.Sign → Bool
  | .negative => true
  | .positive => false

def ofUnpacked : UnpackedFloat → Binary64.Parts
  | .notANumber => .undefined
  | .infinity s => .infinite (isNegative s)
  | .zero s => .finite (isNegative s) 0 Binary64.leastExponent
  | .finite s m e _ => .finite (isNegative s) m e

theorem isNegative_unpackSign (b : BitVec format.numBits) :
    isNegative (.ofBitVec (unpackSign b)) = decide (2 ^ 63 ≤ b.toNat) := by
  have hb : b.toNat < 2 ^ 64 := b.isLt
  have htoNat := toNat_unpackSign b
  unfold UnpackedFloat.Sign.ofBitVec
  split
  · rename_i hzero
    rw [hzero] at htoNat
    have : (0 : Nat) = b.toNat / 2 ^ 63 % 2 := htoNat
    rw [isNegative, eq_comm, decide_eq_false_iff_not]
    omega
  · rename_i hnonzero
    have : (unpackSign b).toNat ≠ 0 := fun h => hnonzero (BitVec.eq_of_toNat_eq h)
    rw [isNegative, eq_comm, decide_eq_true_eq]
    omega

theorem ofBits_eq_ofUnpacked (b : BitVec format.numBits) :
    Binary64.Parts.ofBits b.toNat = ofUnpacked (UnpackedFloat.unpack format b) := by
  unfold Binary64.Parts.ofBits UnpackedFloat.unpack
  dsimp only [Nat.pow_eq]
  rw [← toNat_unpackMantissa, ← toNat_unpackExponent, ← isNegative_unpackSign]
  have hlast : (unpackExponent b).toNat = 2047 ↔ unpackExponent b = -1#_ :=
    ⟨fun h => BitVec.eq_of_toNat_eq h, fun h => congrArg BitVec.toNat h⟩
  have hfirst : (unpackExponent b).toNat = 0 ↔ unpackExponent b = 0#_ :=
    ⟨fun h => BitVec.eq_of_toNat_eq h, fun h => congrArg BitVec.toNat h⟩
  have hzero : (unpackMantissa b).toNat = 0 ↔ unpackMantissa b = 0#_ :=
    ⟨fun h => BitVec.eq_of_toNat_eq h, fun h => congrArg BitVec.toNat h⟩
  simp only [hlast, hfirst]
  split
  · simp only [hzero]
    split <;> rfl
  · split
    · rename_i hsubnormal
      split
      · rename_i hm
        rw [hzero.2 hm]
        rfl
      · rw [hsubnormal]
        rfl
    · rw [ofUnpacked]
      congr 1
      exact (toNat_implicit _).symm

theorem parts_eq_ofUnpacked (x : Float) : Binary64.parts x = ofUnpacked (unpack x) :=
  ofBits_eq_ofUnpacked x.toModel.toBits.toBitVec

/-- The mantissas and exponents of doubles: the mantissa has its full length unless the exponent is
the least one. -/
structure Canonical (m : Nat) (e : Int) : Prop where
  mantissa_lt : m < 2 ^ 53
  exponent_ge : -1074 ≤ e
  exponent_le : e ≤ 971
  normal : 2 ^ 52 ≤ m ∨ e = -1074

theorem canonical_of_unpack {x : Float} {s : UnpackedFloat.Sign} {m : Nat} {e : Int} {hm : 0 < m}
    (h : unpack x = .finite s m e hm) : Canonical m e := by
  let b : BitVec format.numBits := x.toModel.toBits.toBitVec
  have hmantissa : (unpackMantissa b).toNat < 2 ^ 52 := (unpackMantissa b).isLt
  have hexponent : (unpackExponent b).toNat < 2 ^ 11 := (unpackExponent b).isLt
  change UnpackedFloat.unpack format b = _ at h
  unfold UnpackedFloat.unpack at h
  dsimp only at h
  split at h
  · split at h <;> cases h
  · rename_i hlast
    have hlast' : (unpackExponent b).toNat ≠ 2047 := fun h => hlast (BitVec.eq_of_toNat_eq h)
    split at h
    · rename_i hfirst
      split at h
      · cases h
      · cases h
        rw [hfirst]
        refine ⟨?_, ?_, ?_, .inr rfl⟩
        · omega
        · decide
        · decide
    · rename_i hfirst
      have hfirst' : (unpackExponent b).toNat ≠ 0 := fun h => hfirst (BitVec.eq_of_toNat_eq h)
      have hbias : (format.exponentBias : Int) + format.mantissaBitsWithoutImplicit = 1075 := rfl
      cases h
      rw [toNat_implicit, hbias]
      refine ⟨?_, ?_, ?_, .inl ?_⟩ <;> omega

end Formulae.Number.Double
