import Planwright.Double.Binary
import Planwright.Proofs.Double.Rank
import Planwright.Proofs.Double.Rounding

set_option autoImplicit false

/-!
# Unpacked doubles

What a double is unpacked to can be packed again without a change (`Canonical.unpack_pack`), so a
sign is all that negation and the absolute value touch (`unpack_neg`, `unpack_abs`).  And the
significand and the exponent that it is unpacked to are those that its bits are taken apart into
(`takenApart_parts`).
-/

namespace Planwright.Double

open Float.Model Float.Model.UnpackedFloat

/-! ## Packing what was unpacked -/

/-- A mantissa and an exponent as a double stores them: 53 places, or fewer with the least
exponent. -/
structure Canonical (m : Nat) (e : Int) : Prop extends Storable m e where
  normal : m.log2 = 52 ∨ m < 2 ^ 52 ∧ e = -1074

theorem toNat_leading (mantissa : BitVec 52) :
    (1#1 ++ mantissa).toNat = mantissa.toNat + 1 <<< 52 := by
  rw [BitVec.toNat_append, ← Nat.shiftLeft_add_eq_or_of_lt mantissa.isLt, Nat.add_comm]
  rfl

theorem canonical_unpack {b : BitVec Format.binary64.numBits} {s : Sign} {m : Nat} {e : Int}
    {hm : 0 < m} (h : UnpackedFloat.unpack .binary64 b = .finite s m e hm) : Canonical m e := by
  refine ⟨stored_unpack b s m e hm h, ?_⟩
  have hmantissa := (unpackMantissa b).isLt
  unfold UnpackedFloat.unpack at h
  dsimp only at h hmantissa
  split at h
  · split at h <;> cases h
  · split at h
    · next hsmallest =>
      have hzero : (unpackExponent b).toNat = 0 := congrArg BitVec.toNat hsmallest
      have hbias : Format.binary64.exponentBias = 1023 := rfl
      split at h
      · cases h
      · injection h with _ hm he
        exact .inr ⟨by omega, by omega⟩
    · injection h with _ hm he
      have hleading := toNat_leading (unpackMantissa b)
      refine .inl ((Nat.log2_eq_iff ?_).2 ?_) <;> omega

theorem Canonical.unpack_pack {m : Nat} {e : Int} (h : Canonical m e) (s : Sign) (hm : 0 < m) :
    (Float.Model.pack (.finite s m e hm)).unpack = .finite s m e hm := by
  obtain ⟨⟨-, hleast, hgreatest⟩, hlog | ⟨hsmall, rfl⟩⟩ := h
  · have hpacked := packed_unpack_pack s e hm
    generalize (Float.Model.pack (.finite s m e hm)).unpack = u at hpacked ⊢
    cases hpacked with
    | infinite large => omega
    | same => rfl
    | zero small => exact absurd (small hlog) (not_lt.2 hleast)
    | tiny small => exact absurd (small hlog) (not_lt.2 hleast)
  · have hunpack : (Float.Model.pack (.finite s m (-1074) hm)).unpack
        = .unpack .binary64 (UnpackedFloat.pack .binary64 (.finite s m (-1074) hm)) := rfl
    have hlog : m.log2 ≠ 52 := ((Nat.log2_lt hm.ne').2 hsmall).ne
    have hmantissa : (BitVec.ofNat 52 m).toNat = m := Nat.mod_eq_of_lt hsmall
    have hne : BitVec.ofNat 52 m ≠ 0#52 := fun hzero => by
      have hvalue := congrArg BitVec.toNat hzero
      rw [hmantissa] at hvalue
      exact hm.ne' hvalue
    rw [hunpack, pack_finite, if_neg (by decide), if_neg hlog,
      unpack_packComponents_smallest s hne (hmantissa.symm ▸ hm)]
    simp only [hmantissa]

theorem unpack_neg (x : Float) : (-x).toModel.unpack = x.toModel.unpack.neg := by
  have hneg : (-x).toModel.unpack = (Float.Model.pack x.toModel.unpack.neg).unpack := rfl
  rw [hneg]
  generalize hu : x.toModel.unpack = u
  cases u with
  | notANumber => rfl
  | infinity s => cases s <;> rfl
  | zero s => cases s <;> rfl
  | finite s m e hm => exact (canonical_unpack hu).unpack_pack _ hm

theorem unpack_abs (x : Float) : x.abs.toModel.unpack = x.toModel.unpack.abs := by
  have habs : x.abs.toModel.unpack = (Float.Model.pack x.toModel.unpack.abs).unpack := rfl
  rw [habs]
  generalize hu : x.toModel.unpack = u
  cases u with
  | notANumber => rfl
  | infinity s => cases s <;> rfl
  | zero s => cases s <;> rfl
  | finite s m e hm => exact (canonical_unpack hu).unpack_pack _ hm

/-! ## Parts -/

theorem toNat_unpackExponent (x : Float) :
    (@unpackExponent .binary64 x.toModel.toBits.toBitVec).toNat
      = (x.toBits.toNat >>> 52) % (1 <<< 11) := by
  simp only [unpackExponent, BitVec.toNat_cast, BitVec.extractLsb_toNat]
  rfl

theorem toNat_unpackMantissa (x : Float) :
    (@unpackMantissa .binary64 x.toModel.toBits.toBitVec).toNat = x.toBits.toNat % (1 <<< 52) := by
  simp only [unpackMantissa, BitVec.toNat_cast, BitVec.extractLsb_toNat]
  rfl

/-- The sign of a double that is told to be negative or not. -/
def signOf (negative : Bool) : Sign := if negative then .negative else .positive

theorem ofBitVec_unpackSign (x : Float) :
    Sign.ofBitVec (@unpackSign .binary64 x.toModel.toBits.toBitVec)
      = signOf (x.toBits.toNat >>> 63 == 1) := by
  have hbits : x.toBits.toNat < 2 ^ 64 := x.toBits.toBitVec.isLt
  have hbit : (@unpackSign .binary64 x.toModel.toBits.toBitVec).toNat = x.toBits.toNat >>> 63 := by
    simp only [unpackSign, BitVec.toNat_cast, BitVec.extractLsb_toNat]
    have hlast : x.toModel.toBits.toBitVec.toNat = x.toBits.toNat := rfl
    rw [hlast, Nat.shiftRight_eq_div_pow]
    omega
  rw [← hbit]
  obtain hzero | hone := BitVec.eq_zero_or_eq_one (@unpackSign .binary64 x.toModel.toBits.toBitVec)
  · rw [hzero]
    rfl
  · rw [hone]
    rfl

/-- A finite number and what it is taken apart into. -/
inductive TakenApart : UnpackedFloat → Parts → Prop where
  | zero (negative : Bool) : TakenApart (.zero (signOf negative)) ⟨negative, .finite 0 (-1074)⟩
  | finite (negative : Bool) {m : Nat} {e : Int} (pos : 0 < m) :
      TakenApart (.finite (signOf negative) m e pos) ⟨negative, .finite m e⟩

theorem takenApart_parts {x : Float} (hx : x.isFinite = true) :
    TakenApart x.toModel.unpack (parts x) := by
  have hexponent := toNat_unpackExponent x
  have hmantissa := toNat_unpackMantissa x
  have hlargest : @unpackExponent .binary64 x.toModel.toBits.toBitVec ≠ -1#11 := by
    intro hones
    have hfinite : (UnpackedFloat.unpack .binary64 x.toModel.toBits.toBitVec).isFinite = true := hx
    unfold UnpackedFloat.unpack at hfinite
    dsimp only at hfinite
    rw [if_pos hones] at hfinite
    split at hfinite <;> cases hfinite
  have hfield : (@unpackExponent .binary64 x.toModel.toBits.toBitVec).toNat ≠ 2047 := fun h =>
    hlargest (BitVec.eq_of_toNat_eq h)
  have hunpack : x.toModel.unpack = .unpack .binary64 x.toModel.toBits.toBitVec := rfl
  rw [hunpack]
  unfold UnpackedFloat.unpack parts partsOfBits
  dsimp only
  rw [ofBitVec_unpackSign x, ← hexponent, ← hmantissa, if_neg hlargest, if_neg hfield]
  by_cases hsmallest : @unpackExponent .binary64 x.toModel.toBits.toBitVec = 0#11
  · have hzero : (@unpackExponent .binary64 x.toModel.toBits.toBitVec).toNat = 0 :=
      congrArg BitVec.toNat hsmallest
    rw [if_pos hsmallest, if_pos hzero]
    split
    · next hnone =>
      have hnothing : (@unpackMantissa .binary64 x.toModel.toBits.toBitVec).toNat = 0 :=
        congrArg BitVec.toNat hnone
      rw [hnothing]
      exact .zero _
    · simp only [hzero]
      exact .finite _ _
  · have hfield' : (@unpackExponent .binary64 x.toModel.toBits.toBitVec).toNat ≠ 0 := fun h =>
      hsmallest (BitVec.eq_of_toNat_eq h)
    rw [if_neg hsmallest, if_neg hfield']
    simp only [toNat_leading]
    exact .finite _ _

variable {u : UnpackedFloat} {p p' : Parts}

theorem TakenApart.unique (h : TakenApart u p) (h' : TakenApart u p') : p = p' := by
  have hinjective {b b' : Bool} (hb : signOf b = signOf b') : b = b' := by
    cases b <;> cases b' <;> first | rfl | cases hb
  cases h with
  | zero negative =>
      generalize hs : signOf negative = s at h'
      cases h' with
      | zero negative' => rw [hinjective hs]
  | finite negative pos =>
      generalize hs : signOf negative = s at h'
      cases h' with
      | finite negative' => rw [hinjective hs]

theorem TakenApart.abs (h : TakenApart u p) : TakenApart u.abs ⟨false, p.magnitude⟩ := by
  cases h with
  | zero negative => exact .zero false
  | finite negative pos => exact .finite false pos

end Planwright.Double
