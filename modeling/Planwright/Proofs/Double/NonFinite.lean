import Planwright.Proofs.Double.Finite
import Planwright.Proofs.Double.Packing

set_option autoImplicit false

/-!
# What is not finite stays so

An infinity, or what is "not a number", that goes into a sum, a product or the dividend of a
quotient makes the result no finite number either; so does one under a root, in a rounding and in a
series that is summed up.  (A divisor is another matter: a finite number by an infinite one is
zero.)
-/

namespace Planwright.Double

open Float.Model Float.Model.UnpackedFloat

/-! ## On unpacked numbers -/

section

variable {u v : UnpackedFloat}

theorem finite_of_pack (h : (Float.Model.pack u).unpack.isFinite = true) : u.isFinite = true := by
  cases u with
  | notANumber => exact h
  | infinity s => cases s <;> exact h
  | zero s => rfl
  | finite s m e hm => rfl

theorem finite_of_add (h : (UnpackedFloat.add .binary64 u v).isFinite = true) :
    u.isFinite = true ∧ v.isFinite = true := by
  cases u with
  | notANumber => cases h
  | infinity s =>
      cases v with
      | infinity t => cases s <;> cases t <;> cases h
      | _ => cases h
  | _ =>
      cases v with
      | notANumber => cases h
      | infinity t => cases h
      | _ => exact ⟨rfl, rfl⟩

theorem finite_of_mul (h : (UnpackedFloat.mul .binary64 u v).isFinite = true) :
    u.isFinite = true ∧ v.isFinite = true := by
  cases u with
  | notANumber => cases h
  | infinity s => cases v <;> cases h
  | _ =>
      cases v with
      | notANumber => cases h
      | infinity t => cases h
      | _ => exact ⟨rfl, rfl⟩

theorem finite_of_div (h : (UnpackedFloat.div .binary64 u v).isFinite = true) :
    u.isFinite = true := by
  cases u with
  | notANumber => cases h
  | infinity s => cases v <;> cases h
  | zero s => rfl
  | finite s m e hm => rfl

theorem finite_of_sqrt (h : (UnpackedFloat.sqrt .binary64 u).isFinite = true) :
    u.isFinite = true := by
  cases u with
  | notANumber => cases h
  | infinity s => cases s <;> cases h
  | zero s => rfl
  | finite s m e hm => rfl

theorem isFinite_neg (u : UnpackedFloat) : u.neg.isFinite = u.isFinite := by
  cases u <;> rfl

theorem isFinite_abs (u : UnpackedFloat) : u.abs.isFinite = u.isFinite := by
  cases u <;> rfl

theorem Limited.isFinite {k : Int} (h : Limited k u) : u.isFinite = true := by
  cases h <;> rfl

end

/-! ## On doubles themselves -/

variable {x y : Float}

theorem Within.isFinite {k : Nat} (h : Within k x) : x.isFinite = true := Limited.isFinite h

theorem operands_of_add (h : (x + y).isFinite = true) : x.isFinite = true ∧ y.isFinite = true :=
  finite_of_add (finite_of_pack h)

theorem operands_of_sub (h : (x - y).isFinite = true) : x.isFinite = true ∧ y.isFinite = true := by
  have hdifference := finite_of_pack h
  rw [sub_eq_add_neg] at hdifference
  obtain ⟨hx, hy⟩ := finite_of_add hdifference
  exact ⟨hx, (isFinite_neg y.toModel.unpack).symm.trans hy⟩

theorem operands_of_mul (h : (x * y).isFinite = true) : x.isFinite = true ∧ y.isFinite = true :=
  finite_of_mul (finite_of_pack h)

theorem dividend_of_div (h : (x / y).isFinite = true) : x.isFinite = true :=
  finite_of_div (finite_of_pack h)

theorem radicand_of_sqrt (h : x.sqrt.isFinite = true) : x.isFinite = true :=
  finite_of_sqrt (finite_of_pack h)

theorem isFinite_neg_iff : (-x).isFinite = true ↔ x.isFinite = true := by
  have hneg : (-x).isFinite = x.toModel.unpack.neg.isFinite :=
    congrArg UnpackedFloat.isFinite (unpack_neg x)
  rw [hneg, isFinite_neg]
  rfl

/-- A sign is all that a double and its size differ in. -/
theorem isFinite_abs_iff : x.abs.isFinite = true ↔ x.isFinite = true := by
  have habs : x.abs.isFinite = x.toModel.unpack.abs.isFinite :=
    congrArg UnpackedFloat.isFinite (unpack_abs x)
  rw [habs, isFinite_abs]
  rfl

/-- What is taken apart into a significand and an exponent is finite. -/
theorem isFinite_of_parts {negative : Bool} {m : Nat} {e : Int}
    (h : parts x = ⟨negative, .finite m e⟩) : x.isFinite = true := by
  have hfield : (x.toBits.toNat >>> 52) % (1 <<< 11) ≠ 2047 := by
    intro hfull
    have hmagnitude := congrArg Parts.magnitude h
    unfold parts partsOfBits at hmagnitude
    dsimp only at hmagnitude
    rw [if_pos hfull] at hmagnitude
    split at hmagnitude <;> cases hmagnitude
  have hexponent := toNat_unpackExponent x
  have hunpack : (UnpackedFloat.unpack .binary64 x.toModel.toBits.toBitVec).isFinite = true := by
    unfold UnpackedFloat.unpack
    dsimp only
    rw [if_neg]
    · split
      · split <;> rfl
      · rfl
    · intro hones
      exact hfield (hexponent.symm.trans (congrArg BitVec.toNat hones))
  exact hunpack

theorem finite_of_nearestWhole (h : (nearestWhole x).isFinite = true) : x.isFinite = true := by
  unfold nearestWhole at h
  split at h
  · next hparts => exact isFinite_of_parts hparts
  · exact h

end Planwright.Double
