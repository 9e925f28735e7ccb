import Planwright.Double.Reading
import Planwright.Proofs.Double.Nearest
import Planwright.Proofs.Double.NonFinite

set_option autoImplicit false

/-!
# Doubles as rational numbers

A finite double is a rational number (`value`), so it makes sense to say that it is as near to a
rational number as any double (`IsNearest`).  Hundredths are read so, whatever way the reading takes
(`isNearest_nearest`), unless there are more of them than doubles reach.
-/

namespace Planwright.Double

open Float.Model Float.Model.UnpackedFloat

variable {x y : Float} {u : UnpackedFloat} {p : Parts}

/-! ## The number that a double is -/

/-- The rational number that a finite number is. -/
def rational : UnpackedFloat → ℚ
  | .finite s m e _ => s.apply m * 2 ^ e
  | _ => 0

theorem rational_neg (u : UnpackedFloat) : rational u.neg = -rational u := by
  cases u with
  | finite s m e hm => cases s <;> simp [UnpackedFloat.neg, rational, Sign.apply]
  | _ => exact neg_zero.symm

/-- The rational number that a finite double is. -/
def value (x : Float) : ℚ := rational x.toModel.unpack

theorem value_neg (x : Float) : value (-x) = -value x := by
  rw [value, unpack_neg, rational_neg, value]

/-- The number of what was taken apart. -/
theorem TakenApart.rational_eq (h : TakenApart u p) :
    ∃ m e, p.magnitude = .finite m e ∧
      rational u = if p.negative then -scaled m e else scaled m e := by
  cases h with
  | zero negative =>
      refine ⟨0, -1074, rfl, ?_⟩
      rw [scaled, Nat.cast_zero, zero_mul, neg_zero, ite_self]
      rfl
  | @finite negative m e pos =>
      refine ⟨m, e, rfl, ?_⟩
      cases negative <;> simp [signOf, rational, Sign.apply, scaled]

/-- A finite double has a significand and an exponent. -/
theorem exists_parts (hx : x.isFinite = true) :
    ∃ m e, parts x = ⟨(parts x).negative, .finite m e⟩ ∧
      value x = if (parts x).negative then -scaled m e else scaled m e := by
  obtain ⟨m, e, hmagnitude, hvalue⟩ := (takenApart_parts hx).rational_eq
  exact ⟨m, e, congrArg _ hmagnitude, hvalue⟩

theorem parts_abs (hx : x.isFinite = true) : parts x.abs = ⟨false, (parts x).magnitude⟩ := by
  have habs := takenApart_parts (isFinite_abs_iff.2 hx)
  rw [unpack_abs] at habs
  exact habs.unique (takenApart_parts hx).abs

theorem scaled_nonneg (m : Nat) (e : Int) : 0 ≤ scaled m e := by
  unfold scaled
  positivity

/-- Which numbers are below zero. -/
theorem isBelowZero_iff (hx : x.isFinite = true) : isBelowZero x = true ↔ value x < 0 := by
  obtain ⟨m, e, hparts, hvalue⟩ := exists_parts hx
  generalize (parts x).negative = negative at hparts hvalue
  have hzero : m = 0 ↔ scaled m e = 0 := by
    rw [scaled, mul_eq_zero, Nat.cast_eq_zero]
    exact (or_iff_left (zpow_ne_zero _ two_ne_zero)).symm
  unfold isBelowZero
  rw [hparts, hvalue]
  cases negative with
  | true =>
      have hpos : 0 < scaled m e ↔ m ≠ 0 := by
        rw [(scaled_nonneg m e).lt_iff_ne', Ne, Ne, hzero]
      simp [hpos]
  | false => simp [scaled_nonneg]

/-! ## Nearest doubles -/

variable {q : ℚ}

/-- A finite double that is as near to `q` as any other. -/
structure IsNearest (q : ℚ) (y : Float) : Prop where
  finite : y.isFinite = true
  le (z : Float) (hz : z.isFinite = true) : |value y - q| ≤ |value z - q|

theorem IsNearest.neg (h : IsNearest q y) : IsNearest (-q) (-y) := by
  refine ⟨isFinite_neg_iff.2 h.finite, fun z hz => ?_⟩
  have hle := h.le (-z) (isFinite_neg_iff.2 hz)
  calc |value (-y) - -q| = |value y - q| := by rw [value_neg, neg_sub_neg, abs_sub_comm]
    _ ≤ |value (-z) - q| := hle
    _ = |value z - -q| := by
        rw [value_neg, ← abs_neg, neg_sub, sub_neg_eq_add, sub_neg_eq_add, add_comm]

/-- The size of a finite double can be stored. -/
theorem exists_storable (hx : x.isFinite = true) :
    ∃ m e, Storable m e ∧ |value x| = scaled m e := by
  have hfinite : x.toModel.unpack.isFinite = true := hx
  have hstored : Stored x.toModel.unpack := stored_unpack _
  rw [value]
  generalize x.toModel.unpack = u at hfinite hstored
  cases u with
  | notANumber => cases hfinite
  | infinity s => cases hfinite
  | zero s => exact ⟨0, 0, ⟨by decide, by decide, by decide⟩, by simp [rational, scaled]⟩
  | finite s m e hm =>
      refine ⟨m, e, hstored s m e hm rfl, ?_⟩
      cases s <;> simp [rational, Sign.apply, scaled, abs_mul]

theorem Nearest.isNearest (hq : 0 ≤ q) (h : Nearest q y.toModel.unpack) : IsNearest q y := by
  generalize hu : y.toModel.unpack = u at h
  cases h with
  | @finite m e pos places exponent nearest =>
      have hvalue : value y = scaled m e := by
        rw [value, hu]
        rfl
      refine ⟨congrArg UnpackedFloat.isFinite hu, fun z hz => ?_⟩
      obtain ⟨n, d, hstorable, hsize⟩ := exists_storable hz
      rw [hvalue]
      calc |scaled m e - q| ≤ |(|value z| - q)| := hsize ▸ nearest n d hstorable.mantissa
        _ = |(|value z| - |q|)| := by rw [abs_of_nonneg hq]
        _ ≤ |value z - q| := abs_abs_sub_abs_le _ _

/-- The largest number that can be stored. -/
theorem Storable.scaled_le {n : Nat} {d : Int} (h : Storable n d) :
    scaled n d ≤ scaled (2 ^ 53 - 1) 971 := by
  have hmantissa : n ≤ 2 ^ 53 - 1 := Nat.le_sub_one_of_lt h.mantissa
  have hexponent : (2 : ℚ) ^ d ≤ 2 ^ (971 : Int) := zpow_le_zpow_right₀ one_le_two h.greatest
  rw [scaled, scaled]
  gcongr

/-- What is near to a number that can be stored is not too large to be packed. -/
theorem Nearest.unpack_pack (h : Nearest q u) {n : Nat} {d : Int} (hstorable : Storable n d)
    (hnear : |scaled n d - q| ≤ 1 / 2) : (Float.Model.pack u).unpack = u := by
  cases h with
  | @finite m e pos places exponent nearest =>
      refine (unpack_pack_finite pos places exponent).resolve_left fun hinfinite => ?_
      have hpacked := packed_unpack_pack .positive e pos
      rw [hinfinite] at hpacked
      cases hpacked with
      | infinite large =>
          have hexponent : (1024 : Int) ≤ m.log2 + e := by omega
          have hself := abs_le.1 ((nearest n d hstorable.mantissa).trans hnear)
          have hother := abs_le.1 hnear
          have hunit : (1 : ℚ) < scaled 1 971 := by
            rw [scaled, Nat.cast_one, one_mul]
            exact one_lt_zpow₀ one_lt_two (by decide)
          have hrange : scaled m e < 2 ^ (1024 : Int) :=
            calc scaled m e ≤ scaled n d + 1 := by linarith only [hself.2, hother.1]
              _ < scaled (2 ^ 53 - 1) 971 + scaled 1 971 :=
                add_lt_add_of_le_of_lt hstorable.scaled_le hunit
              _ = scaled (2 ^ 53) 971 := (scaled_add (2 ^ 53 - 1) 1 971).symm
              _ = 2 ^ (1024 : Int) := scaled_two_pow 53 971
          exact absurd ((zpow_le_zpow_right₀ one_le_two hexponent).trans (le_scaled pos.ne' e))
            (not_le.2 hrange)

/-! ## Reading hundredths -/

/-- A count that can be stored is a double as it is. -/
theorem exists_unpack_toFloat {n : Nat} (hn : 0 < n) (hsmall : n < 2 ^ 53) :
    ∃ m e pos, n.toUInt64.toFloat.toModel.unpack = .finite .positive m e pos ∧ scaled m e = n := by
  have hcount : n.toUInt64.toNat = n := Nat.mod_eq_of_lt (by omega)
  have hround : n.toUInt64.toFloat.toModel
      = .pack (UnpackedFloat.normalize .binary64 n.toUInt64.toNat 0 .positive) := rfl
  have hstorable : Storable n 0 := ⟨hsmall, by decide, by decide⟩
  have hnearest := nearest_round (e := 0) hn (by omega)
  obtain ⟨m, e, pos, hu, hvalue⟩ := hnearest.exact hsmall
  have hpack := hnearest.unpack_pack hstorable (by rw [sub_self, abs_zero]; norm_num)
  rw [hround, hcount, normalize_of_pos hn, hpack]
  exact ⟨m, e, pos, hu, hvalue.trans (scaled_zero n)⟩

/-- A quotient that is near to a number that can be stored is packed as a nearest double. -/
theorem nearest_pack_div {m₁ m₂ : Nat} {e₁ e₂ : Int} (h₁ : 0 < m₁) (h₂ : 0 < m₂)
    (he : -1021 ≤ m₁.log2 + e₁ - (m₂.log2 + e₂)) (hq : scaled m₁ e₁ / scaled m₂ e₂ = q) {n : Nat}
    {d : Int} (hstorable : Storable n d) (hnear : |scaled n d - q| ≤ 1 / 2) :
    Nearest q (Float.Model.pack (UnpackedFloat.div .binary64 (.finite .positive m₁ e₁ h₁)
      (.finite .positive m₂ e₂ h₂))).unpack := by
  have hnearest := nearest_div h₁ h₂ he
  rw [hq] at hnearest
  rwa [hnearest.unpack_pack hstorable hnear]

/-- A number of hundredths is read as a nearest double, unless there are too many of them. -/
theorem nearest_ofScientific {h : Nat} (hpos : 0 < h) {n : Nat} {d : Int} (hstorable : Storable n d)
    (hnear : |scaled n d - h / 100| ≤ 1 / 2) :
    Nearest (h / 100) (Float.ofScientific h true 2).toModel.unpack := by
  rw [Float.ofScientific]
  split
  · next hsmall =>
    obtain ⟨m, e, pos, hunpack, hvalue⟩ := exists_unpack_toFloat hpos hsmall.1
    have hhundred : (Float.ofBits 0x4059000000000000).toModel.unpack
        = .finite .positive (25 * 2 ^ 48) (-46) (by decide) := rfl
    have hdiv : (h.toUInt64.toFloat / Float.ofBits 0x4059000000000000).toModel
        = .pack (UnpackedFloat.div .binary64 h.toUInt64.toFloat.toModel.unpack
            (Float.ofBits 0x4059000000000000).toModel.unpack) := rfl
    have hlength : (0 : Int) < m.log2 + 1 + e := by
      have hone : (2 : ℚ) ^ (0 : Int) ≤ scaled m e := by
        rw [hvalue, zpow_zero]
        exact_mod_cast hpos
      exact (zpow_lt_zpow_iff_right₀ one_lt_two).1 (hone.trans_lt (scaled_lt m e))
    have hlog : (25 * 2 ^ 48 : Nat).log2 = 52 := by decide
    have hquotient : scaled m e / scaled (25 * 2 ^ 48) (-46) = h / 100 := by
      rw [hvalue]
      norm_num [scaled]
    have hnearest := nearest_pack_div pos (by decide) (by omega) hquotient hstorable hnear
    rwa [← hunpack, ← hhundred, ← hdiv] at hnearest
  · next hlarge =>
    have hquotient : scaled h 0 / scaled 100 0 = h / 100 := by
      rw [scaled_zero, scaled_zero, Nat.cast_ofNat]
    have hlog : (100 : Nat).log2 = 6 := by decide
    have hlow : ¬ (-2 : Int) < -(2 ^ Format.binary64.exponentBits + h.log2) := by
      have hrange : (2 : Int) ^ Format.binary64.exponentBits = 2048 := rfl
      omega
    have hread : UnpackedFloat.ofScientific .binary64 h (-2)
        = UnpackedFloat.div .binary64 (.finite .positive h 0 hpos)
            (.finite .positive 100 0 (by decide)) := by
      rw [UnpackedFloat.ofScientific, dif_neg hpos.ne', if_neg (by decide), if_neg hlow,
        if_neg (by decide)]
      rfl
    have hnearest :=
      nearest_pack_div hpos (by decide) (by omega) hquotient hstorable hnear
    rwa [← hread] at hnearest

theorem length_toDigits_le {n i j : Nat} (hi : 0 < i) (h : n < 10 ^ i * (10 ^ 5) ^ j) :
    (Nat.toDigits 10 n).length ≤ i + 5 * j := by
  rwa [Nat.length_toDigits_le_iff (by decide) (by omega), Nat.pow_add, Nat.pow_mul]

/-- Hundredths that a double is near to do not have more digits than are read. -/
theorem length_toDigits_le_of_near {h n : Nat} {d : Int} (hstorable : Storable n d)
    (hnear : |scaled n d - h / 100| ≤ 1 / 2) : (Nat.toDigits 10 h).length ≤ 3 + 5 * 64 := by
  have hexponent : d + 53 ≤ 1024 := by
    have := hstorable.greatest
    omega
  have hrange : scaled n d < (10 ^ 5) ^ 64 :=
    calc scaled n d < 2 ^ (d + 53) := hstorable.scaled_lt
      _ ≤ 2 ^ (1024 : Int) := zpow_le_zpow_right₀ one_le_two hexponent
      _ = (2 ^ 16) ^ 64 := by
          rw [← pow_mul]
          exact zpow_natCast 2 1024
      _ ≤ (10 ^ 5) ^ 64 := by
          gcongr
          norm_num
  have hunit : (1 : ℚ) ≤ (10 ^ 5) ^ 64 := one_le_pow₀ (by norm_num)
  have hbelow := (abs_le.1 hnear).1
  have hsmall : (h : ℚ) < 10 ^ 3 * (10 ^ 5) ^ 64 := by
    generalize ((10 : ℚ) ^ 5) ^ 64 = k at hrange hunit
    linarith only [hrange, hunit, hbelow]
  exact length_toDigits_le (by decide) (by exact_mod_cast hsmall)

/-- **Reading.**  Hundredths that a double is near to are read as a nearest double. -/
theorem isNearest_nearest {h : Nat} (hx : x.isFinite = true)
    (hnear : |(|value x| - h / 100)| ≤ 1 / 2) : IsNearest (h / 100) (nearest h (-2)) := by
  obtain ⟨n, d, hstorable, hsize⟩ := exists_storable hx
  rw [hsize] at hnear
  rcases Nat.eq_zero_or_pos h with rfl | hpos
  · have hzero : value 0.0 = 0 := rfl
    rw [nearest, if_pos rfl, Nat.cast_zero, zero_div]
    refine ⟨rfl, fun z _ => ?_⟩
    rw [hzero, sub_self, abs_zero]
    exact abs_nonneg _
  · have hlength := length_toDigits_le_of_near hstorable hnear
    have hread : nearest h (-2) = Float.ofScientific h true 2 := by
      unfold nearest
      dsimp only
      rw [if_neg hpos.ne', if_neg (by omega), if_neg (by omega)]
      rfl
    rw [hread]
    exact (nearest_ofScientific hpos hstorable hnear).isNearest (by positivity)

end Planwright.Double
