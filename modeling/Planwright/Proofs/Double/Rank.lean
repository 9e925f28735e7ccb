import Mathlib
import Planwright.Proofs.Double.Order

set_option autoImplicit false

/-!
# Doubles in a row

Every double that is a number has a place in one row, and doubles compare as their places do
(`lt_iff_rank_lt`).  So the best of some doubles can be sought among natural numbers, as long as
none of them is "not a number".
-/

namespace Planwright.Double

open Float.Model Float.Model.UnpackedFloat

/-! ## What can be stored -/

/-- The mantissas and exponents that a double can have. -/
structure Storable (m : Nat) (e : Int) : Prop where
  mantissa : m < 2 ^ 53
  least : -1074 ≤ e
  greatest : e ≤ 971

/-- A number that a double can be, if it is finite. -/
def Stored (u : UnpackedFloat) : Prop := ∀ s m e hm, u = .finite s m e hm → Storable m e

theorem stored_unpack (b : BitVec Format.binary64.numBits) :
    Stored (UnpackedFloat.unpack .binary64 b) := by
  intro s m e hm h
  have hbias : Format.binary64.exponentBias = 1023 := rfl
  have hexponent := (unpackExponent b).isLt
  have hmantissa := (unpackMantissa b).isLt
  unfold UnpackedFloat.unpack at h
  dsimp only at h hexponent hmantissa
  split at h
  · split at h <;> cases h
  · next hlarge =>
    have hne : (unpackExponent b).toNat ≠ 2047 := fun heq => hlarge (BitVec.eq_of_toNat_eq heq)
    split at h
    · next hsmallest =>
      have hzero : (unpackExponent b).toNat = 0 := congrArg BitVec.toNat hsmallest
      split at h
      · cases h
      · injection h with _ hm he
        exact ⟨by omega, by omega, by omega⟩
    · next hsmallest =>
      have hzero : (unpackExponent b).toNat ≠ 0 := fun heq => hsmallest (BitVec.eq_of_toNat_eq heq)
      have hfull : (1#1 ++ unpackMantissa b).toNat < 2 ^ 53 := BitVec.isLt _
      injection h with _ hm he
      exact ⟨by omega, by omega, by omega⟩

/-! ## Places -/

/-- How far a number is from zero. -/
def distance (m : Nat) (e : Int) : Nat := (e + 1074).toNat * 2 ^ 53 + m

theorem Storable.distance_lt {m : Nat} {e : Int} (h : Storable m e) : distance m e < 2 ^ 64 := by
  obtain ⟨hm, hleast, hgreatest⟩ := h
  unfold distance
  omega

theorem Storable.distance_lt_iff {m n : Nat} {e d : Int} (h : Storable m e) (h' : Storable n d) :
    distance m e < distance n d ↔ (compare e d).then (compare m n) = .lt := by
  obtain ⟨hm, hleast, hgreatest⟩ := h
  obtain ⟨hn, hleast', hgreatest'⟩ := h'
  rw [Ordering.then_eq_lt, Int.compare_eq_lt, Int.compare_eq_eq, Nat.compare_eq_lt]
  unfold distance
  omega

/-- The place of a number among those below zero, zero and those above zero. -/
def place : UnpackedFloat → Int
  | .notANumber => 0
  | .infinity s => s.apply (2 ^ 64)
  | .zero _ => 0
  | .finite s m e _ => s.apply (distance m e)

theorem place_finite_bounds {s : Sign} {m : Nat} {e : Int} (hm : 0 < m) (h : Storable m e) :
    -(2 ^ 64) < place (.finite s m e hm) ∧ place (.finite s m e hm) < 2 ^ 64 := by
  have hdistance := h.distance_lt
  cases s <;> simp only [place, Sign.apply] <;> omega

theorem place_finite_sign {m : Nat} (e : Int) (hm : 0 < m) :
    place (.finite .negative m e hm) < 0 ∧ 0 < place (.finite .positive m e hm) := by
  have hdistance : 0 < distance m e := hm.trans_le (Nat.le_add_left _ _)
  simp only [place, Sign.apply]
  omega

theorem place_lt_place_iff {u v : UnpackedFloat} (hu : u.isNaN = false) (hv : v.isNaN = false)
    (hu' : Stored u) (hv' : Stored v) :
    place u < place v ↔ u.compare v = some .lt := by
  cases u with
  | notANumber => cases hu
  | infinity s =>
      cases v with
      | notANumber => cases hv
      | infinity t => cases s <;> cases t <;> decide
      | zero t => cases s <;> cases t <;> decide
      | finite t n d hn =>
          obtain ⟨hlow, hhigh⟩ := place_finite_bounds hn (hv' t n d hn rfl)
          cases s
          · exact iff_of_true hlow (by cases t <;> rfl)
          · exact iff_of_false hhigh.le.not_gt (by cases t <;> nofun)
  | zero s =>
      cases v with
      | notANumber => cases hv
      | infinity t => cases s <;> cases t <;> decide
      | zero t => cases s <;> cases t <;> decide
      | finite t n d hn =>
          obtain ⟨hbelow, habove⟩ := place_finite_sign d hn
          cases t
          · exact iff_of_false hbelow.le.not_gt nofun
          · exact iff_of_true habove rfl
  | finite s m e hm =>
      obtain ⟨hlow, hhigh⟩ := place_finite_bounds hm (hu' s m e hm rfl)
      obtain ⟨hbelow, habove⟩ := place_finite_sign e hm
      cases v with
      | notANumber => cases hv
      | infinity t =>
          cases t
          · exact iff_of_false hlow.le.not_gt (by cases s <;> nofun)
          · exact iff_of_true hhigh (by cases s <;> rfl)
      | zero t =>
          cases s
          · exact iff_of_true hbelow rfl
          · exact iff_of_false habove.le.not_gt nofun
      | finite t n d hn =>
          obtain ⟨hbelow', habove'⟩ := place_finite_sign d hn
          have hm' := hu' s m e hm rfl
          have hn' := hv' t n d hn rfl
          cases s <;> cases t
          · have hgt := hn'.distance_lt_iff hm'
            rw [then_compare_swap] at hgt
            simpa [place, UnpackedFloat.compare, Sign.apply] using hgt
          · exact iff_of_true (hbelow.trans habove') rfl
          · exact iff_of_false (hbelow'.trans habove).le.not_gt nofun
          · have hlt := hm'.distance_lt_iff hn'
            simpa [place, UnpackedFloat.compare, Sign.apply] using hlt

theorem le_place {u : UnpackedFloat} (h : Stored u) : -(2 ^ 64) ≤ place u := by
  cases u with
  | notANumber => decide
  | infinity s => cases s <;> decide
  | zero s => cases s <;> decide
  | finite s m e hm => exact (place_finite_bounds hm (h s m e hm rfl)).1.le

/-! ## On doubles themselves -/

variable {x y : Float}

theorem lt_iff_place_lt (hx : x.isNaN = false) (hy : y.isNaN = false) :
    x < y ↔ place x.toModel.unpack < place y.toModel.unpack := by
  rw [lt_iff, ← place_lt_place_iff hx hy (stored_unpack _) (stored_unpack _)]

theorem le_iff_not_lt (hx : x.isNaN = false) (hy : y.isNaN = false) : x ≤ y ↔ ¬ y < x := by
  rw [← not_iff_not, not_le_iff, hx, hy, not_not]
  simp

theorem le_iff_place_le (hx : x.isNaN = false) (hy : y.isNaN = false) :
    x ≤ y ↔ place x.toModel.unpack ≤ place y.toModel.unpack := by
  rw [le_iff_not_lt hx hy, lt_iff_place_lt hy hx, not_lt]

/-- What can be compared is a number. -/
theorem isNaN_of_lt (h : x < y) : x.isNaN = false ∧ y.isNaN = false := by
  have hnan : ¬ (x.isNaN = true ∨ y.isNaN = true) := by
    intro hnan
    rw [lt_iff, (compare_eq_none_iff _ _).2 hnan] at h
    cases h
  rwa [not_or, Bool.not_eq_true, Bool.not_eq_true] at hnan

theorem isNaN_of_le (h : x ≤ y) : x.isNaN = false ∧ y.isNaN = false := by
  have hnan : ¬ (x.isNaN = true ∨ y.isNaN = true) := fun hnan =>
    (not_le_iff x y).2 (.inr hnan) h
  rwa [not_or, Bool.not_eq_true, Bool.not_eq_true] at hnan

/-- The place of a double in the row, counted from the least one. -/
def rank (x : Float) : Nat := (place x.toModel.unpack + 2 ^ 64).toNat

/-- Doubles that are numbers compare as their places in the row do. -/
theorem lt_iff_rank_lt (hx : x.isNaN = false) (hy : y.isNaN = false) : x < y ↔ rank x < rank y := by
  have hleast : -(2 ^ 64) ≤ place x.toModel.unpack := le_place (stored_unpack _)
  rw [lt_iff_place_lt hx hy, rank, rank]
  omega

theorem le_iff_rank_le (hx : x.isNaN = false) (hy : y.isNaN = false) : x ≤ y ↔ rank x ≤ rank y := by
  rw [le_iff_not_lt hx hy, lt_iff_rank_lt hy hx, not_lt]

protected theorem le_rfl (hx : x.isNaN = false) : x ≤ x := (le_iff_rank_le hx hx).2 le_rfl

protected theorem le_of_lt (h : x < y) : x ≤ y := by
  obtain ⟨hx, hy⟩ := isNaN_of_lt h
  exact (le_iff_rank_le hx hy).2 ((lt_iff_rank_lt hx hy).1 h).le

/-! ## Numbers that are not below zero -/

/-- Zero, what is above it, and infinity. -/
inductive Nonneg : UnpackedFloat → Prop where
  | zero (s : Sign) : Nonneg (.zero s)
  | finite {m : Nat} {e : Int} (pos : 0 < m) : Nonneg (.finite .positive m e pos)
  | infinite : Nonneg (.infinity .positive)

theorem nonneg_of_place {u : UnpackedFloat} (hu : u.isNaN = false) (h : 0 ≤ place u) :
    Nonneg u := by
  cases u with
  | notANumber => cases hu
  | infinity s =>
      cases s
      · exact absurd h (by decide)
      · exact .infinite
  | zero s => exact .zero s
  | finite s m e hm =>
      cases s
      · exact absurd h (place_finite_sign e hm).1.not_ge
      · exact .finite hm

theorem nonneg_of_le (h : 0.0 ≤ x) : Nonneg x.toModel.unpack := by
  obtain ⟨hzero, hx⟩ := isNaN_of_le h
  exact nonneg_of_place hx ((le_iff_place_le hzero hx).1 h)

/-- Of two numbers the one with the greater exponent is greater, or farther from zero. -/
theorem Storable.exponent_le {m n : Nat} {e d : Int} (h : Storable m e) (h' : Storable n d)
    (hle : distance m e ≤ distance n d) : e ≤ d := by
  obtain ⟨hm, hleast, hgreatest⟩ := h
  obtain ⟨hn, hleast', hgreatest'⟩ := h'
  unfold distance at hle
  omega

end Planwright.Double
