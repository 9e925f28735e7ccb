import Mathlib
import Planwright.Proofs.Double.Order

set_option autoImplicit false

/-!
# Bounds that rounding keeps

A sum or product of doubles is rounded, so it may come out below the exact result.  But it never
falls below a normal double that the exact result is not below.  Bounds by such doubles can
therefore be carried through a computation (`AtLeast.add`, `AtLeast.mul`), however large the numbers
grow: a result that is too large becomes infinite, which is above every bound.
-/

namespace Planwright.Double

open Float.Model Float.Model.UnpackedFloat

/-! ## Bounds -/

/-- The number of a mantissa and an exponent. -/
def scaled (m : Nat) (e : Int) : ℚ := m * 2 ^ e

/-- A number of 53 places with an exponent that is not too small for a normal double. -/
def IsNormal (q : ℚ) : Prop := ∃ m e, Nat.log2 m = 52 ∧ -1074 ≤ e ∧ q = scaled m e

/-- A bound for a positive normal double; one that has become infinite is above all bounds. -/
inductive Bounded (q : ℚ) : UnpackedFloat → Prop where
  | infinite : Bounded q (.infinity .positive)
  | finite {m : Nat} {e : Int} (pos : 0 < m) (places : m.log2 = 52) (exponent : -1074 ≤ e)
      (le : q ≤ scaled m e) : Bounded q (.finite .positive m e pos)

theorem scaled_pos {m : Nat} (hm : 0 < m) (e : Int) : 0 < scaled m e := by
  unfold scaled
  positivity

theorem scaled_zero (m : Nat) : scaled m 0 = m := by
  rw [scaled, zpow_zero, mul_one]

theorem scaled_shiftLeft (m k : Nat) (e : Int) : scaled (m <<< k) (e - k) = scaled m e := by
  have htwo : (2 : ℚ) ≠ 0 := two_ne_zero
  rw [scaled, scaled, Nat.shiftLeft_eq, Nat.cast_mul, Nat.cast_pow, Nat.cast_two, mul_assoc,
    ← zpow_natCast, ← zpow_add₀ htwo, add_sub_cancel]

/-- A number written with a smaller exponent. -/
theorem scaled_decrease (m : Nat) {e e' : Int} (h : e' ≤ e) :
    scaled (m <<< (e - e').toNat) e' = scaled m e := by
  have he : e - ((e - e').toNat : Int) = e' := by omega
  have hshift := scaled_shiftLeft m (e - e').toNat e
  rwa [he] at hshift

theorem scaled_mul (m₁ m₂ : Nat) (e₁ e₂ : Int) :
    scaled (m₁ * m₂) (e₁ + e₂) = scaled m₁ e₁ * scaled m₂ e₂ := by
  rw [scaled, scaled, scaled, Nat.cast_mul, zpow_add₀ two_ne_zero]
  ring

theorem scaled_add (m₁ m₂ : Nat) (e : Int) : scaled (m₁ + m₂) e = scaled m₁ e + scaled m₂ e := by
  rw [scaled, scaled, scaled, Nat.cast_add, add_mul]

/-- A number lies between two powers of two that its length says. -/
theorem scaled_lt (m : Nat) (e : Int) : scaled m e < 2 ^ (m.log2 + 1 + e) := by
  have hm : (m : ℚ) < 2 ^ (m.log2 + 1) := mod_cast Nat.lt_log2_self
  rw [scaled, zpow_add₀ two_ne_zero]
  gcongr
  exact mod_cast hm

theorem le_scaled {m : Nat} (hm : m ≠ 0) (e : Int) : 2 ^ (m.log2 + e : Int) ≤ scaled m e := by
  have hself : (2 : ℚ) ^ m.log2 ≤ m := mod_cast Nat.log2_self_le hm
  rw [scaled, zpow_add₀ two_ne_zero]
  gcongr
  exact mod_cast hself

/-! ## Shifting and rounding -/

theorem mantissa_shiftRight (em : ExtendedMantissa) (k : Nat) :
    (em >>> k).mantissa = em.mantissa / 2 ^ k := by
  induction k with
  | zero => exact (Nat.div_one _).symm
  | succ k ih =>
      have hone : (em >>> (k + 1)).mantissa = (em >>> k).mantissa / 2 := rfl
      rw [hone, ih, Nat.div_div_eq_div_mul, Nat.pow_succ]

theorem mantissa_ofMantissaAndAccuracy (m : Nat) (a : Accuracy) :
    (ExtendedMantissa.ofMantissaAndAccuracy m a).mantissa = m := by
  fun_cases ExtendedMantissa.ofMantissaAndAccuracy <;> rfl

theorem mantissa_le_roundedMantissa (em : ExtendedMantissa) :
    em.mantissa ≤ em.roundedMantissa ∧ em.roundedMantissa ≤ em.mantissa + 1 := by
  unfold ExtendedMantissa.roundedMantissa Accuracy.roundToNearestEven
  split <;> omega

theorem scaled_le_scaled_iff {m n : Nat} (e : Int) : scaled m e ≤ scaled n e ↔ m ≤ n := by
  have htwo : (0 : ℚ) < 2 ^ e := by positivity
  rw [scaled, scaled, mul_le_mul_iff_of_pos_right htwo, Nat.cast_le]

theorem scaled_lt_scaled_iff {m n : Nat} (e : Int) : scaled m e < scaled n e ↔ m < n := by
  rw [← not_le, scaled_le_scaled_iff, not_le]

theorem ne_zero_of_le_log2 {m : Nat} (hm : 52 ≤ m.log2) : m ≠ 0 := by
  rintro rfl
  rw [Nat.log2_zero] at hm
  omega

theorem log2_shiftLeft {m : Nat} (hm : 0 < m) (k : Nat) : (m <<< k).log2 = m.log2 + k := by
  have hpos : 0 < 2 ^ k := by positivity
  obtain ⟨hlow, hhigh⟩ := (Nat.log2_eq_iff hm.ne').1 rfl
  rw [Nat.log2_eq_iff (Nat.shiftLeft_pos_iff.2 hm).ne', Nat.shiftLeft_eq, add_right_comm,
    Nat.pow_add, Nat.pow_add]
  exact ⟨Nat.mul_le_mul_right _ hlow, Nat.mul_lt_mul_of_pos_right hhigh hpos⟩

/-- The leading bits of a mantissa that is long enough. -/
theorem log2_leading {m : Nat} (hm : 52 ≤ m.log2) : (m / 2 ^ (m.log2 - 52)).log2 = 52 := by
  have hne := ne_zero_of_le_log2 hm
  have hpos : 0 < 2 ^ (m.log2 - 52) := by positivity
  have hlow : 2 ^ 52 ≤ m / 2 ^ (m.log2 - 52) := by
    rw [Nat.le_div_iff_mul_le hpos, ← Nat.pow_add, Nat.add_sub_cancel' hm]
    exact Nat.log2_self_le hne
  have hhigh : m / 2 ^ (m.log2 - 52) < 2 ^ (52 + 1) := by
    rw [Nat.div_lt_iff_lt_mul hpos, ← Nat.pow_add]
    have hlength : 52 + 1 + (m.log2 - 52) = m.log2 + 1 := by omega
    rw [hlength]
    exact Nat.lt_log2_self
  exact (Nat.log2_eq_iff (by omega)).2 ⟨hlow, hhigh⟩

/-- Cutting a number off behind its leading bits does not take it below a normal double. -/
theorem le_leading {q : ℚ} (hq : IsNormal q) {m : Nat} {e : Int} (hm : 52 ≤ m.log2)
    (h : q ≤ scaled m e) :
    q ≤ scaled (m / 2 ^ (m.log2 - 52)) (e + (m.log2 - 52 : Nat)) := by
  obtain ⟨m₀, e₀, hlog, -, rfl⟩ := hq
  have hleading := log2_leading hm
  generalize m.log2 - 52 = s at hleading ⊢
  rcases le_or_gt (e + s) e₀ with hle | hlt
  · -- the double is a multiple of the last place that is kept
    obtain ⟨k, rfl⟩ : ∃ k : Nat, e₀ = e + s + k := ⟨(e₀ - (e + s)).toNat, by omega⟩
    have hplace : scaled m₀ (e + s + k) = scaled (m₀ <<< k) (e + s) := by
      rw [← scaled_shiftLeft m₀ k, add_sub_cancel_right]
    have hwhole : scaled (m₀ <<< k) (e + s) = scaled ((m₀ <<< k) <<< s) e := by
      rw [← scaled_shiftLeft (m₀ <<< k) s, add_sub_cancel_right]
    rw [hplace, scaled_le_scaled_iff, Nat.le_div_iff_mul_le (by positivity)]
    rw [hplace, hwhole, scaled_le_scaled_iff, Nat.shiftLeft_eq _ s] at h
    exact h
  · -- the double is smaller than every number with so many places
    have hne := ne_zero_of_le_log2 hleading.ge
    calc scaled m₀ e₀ ≤ 2 ^ (m₀.log2 + 1 + e₀ : Int) := (scaled_lt m₀ e₀).le
      _ ≤ 2 ^ ((m / 2 ^ s).log2 + (e + s) : Int) := by
          rw [hlog, hleading]
          exact zpow_le_zpow_right₀ one_le_two (by omega)
      _ ≤ scaled (m / 2 ^ s) (e + s) := le_scaled hne _

/-- What is not below a normal double has an exponent that is none of a subnormal one. -/
theorem exponent_of_le {q : ℚ} (hq : IsNormal q) {m : Nat} {e : Int} (h : q ≤ scaled m e) :
    -1022 ≤ m.log2 + e := by
  obtain ⟨m₀, e₀, hlog, he₀, rfl⟩ := hq
  have hne := ne_zero_of_le_log2 hlog.ge
  have hpowers : (2 : ℚ) ^ (m₀.log2 + e₀ : Int) < 2 ^ (m.log2 + 1 + e : Int) :=
    (le_scaled hne e₀).trans_lt (h.trans_lt (scaled_lt m e))
  have hexponents := (zpow_lt_zpow_iff_right₀ one_lt_two).1 hpowers
  omega

theorem targetExponent_eq {m : Nat} {e : Int} (h : -1022 ≤ m.log2 + e) :
    Format.binary64.targetExponent (totalExponent m e) = m.log2 + e - 52 := by
  simp only [Format.targetExponent, totalExponent, Format.mantissaBits, Format.minExponent]
  omega

/-- Numbers that are not below a normal double are shifted until 53 places are left. -/
theorem shiftToTargetExponent_eq {m : Nat} {e : Int} (h : -1022 ≤ m.log2 + e) (a : Accuracy) :
    shiftToTargetExponent .binary64 m e a
      = (ExtendedMantissa.ofMantissaAndAccuracy m a >>> (m.log2 - 52),
          e + (m.log2 - 52 : Nat)) := by
  have hshift : (m.log2 + e - 52 - e).toNat = m.log2 - 52 := by omega
  rw [shiftToTargetExponent, targetExponent_eq h, shiftToExponent, hshift]

/-- **Rounding.**  A number with enough places is not rounded below a normal double. -/
theorem bounded_roundWithAccuracy {q : ℚ} (hq : IsNormal q) {m : Nat} {e : Int}
    (hm : 52 ≤ m.log2) (h : q ≤ scaled m e) (a : Accuracy) :
    Bounded q (roundWithAccuracy .binary64 .positive m e a) := by
  unfold roundWithAccuracy
  rw [shiftToTargetExponent_eq (exponent_of_le hq h)]
  dsimp only
  have hkept := mantissa_le_roundedMantissa
    (ExtendedMantissa.ofMantissaAndAccuracy m a >>> (m.log2 - 52))
  rw [mantissa_shiftRight, mantissa_ofMantissaAndAccuracy] at hkept
  generalize (ExtendedMantissa.ofMantissaAndAccuracy m a >>> (m.log2 - 52)).roundedMantissa = r
    at hkept ⊢
  have hleading := log2_leading hm
  have hfirst : q ≤ scaled r (e + (m.log2 - 52 : Nat)) :=
    (le_leading hq hm h).trans ((scaled_le_scaled_iff _).2 hkept.1)
  -- rounding up may give one place too many, so what was rounded is cut off once more
  have hr : 52 ≤ r.log2 := by
    have hlow := ((Nat.log2_eq_iff (ne_zero_of_le_log2 hleading.ge)).1 hleading).1
    exact (Nat.le_log2 (by omega)).2 (hlow.trans hkept.1)
  rw [shiftToTargetExponent_eq (exponent_of_le hq hfirst)]
  dsimp only
  rw [mantissa_shiftRight, mantissa_ofMantissaAndAccuracy]
  have hsecond := le_leading hq hr hfirst
  have hlength := log2_leading hr
  generalize r / 2 ^ (r.log2 - 52) = final at hsecond hlength ⊢
  have hexponent := exponent_of_le hq hsecond
  rw [dif_neg (ne_zero_of_le_log2 hlength.ge)]
  exact .finite _ hlength (by omega) hsecond

/-- A number that is given more places first is not rounded below a normal double either. -/
theorem bounded_round {q : ℚ} (hq : IsNormal q) {m : Nat} {e : Int} (hm : 0 < m)
    (h : q ≤ scaled m e) : Bounded q (UnpackedFloat.round .binary64 .positive m e) := by
  have hshift : (e - (m.log2 + e - 52)).toNat = 52 - m.log2 := by omega
  rw [UnpackedFloat.round, targetExponent_eq (exponent_of_le hq h), decreaseExponent, hshift]
  refine bounded_roundWithAccuracy hq ?_ ?_ _
  · rw [log2_shiftLeft hm]
    omega
  · rw [scaled_shiftLeft]
    exact h

/-! ## Arithmetic -/

theorem normalize_of_pos {m : Nat} (hm : 0 < m) (e : Int) (zero : Sign) :
    UnpackedFloat.normalize .binary64 m e zero = UnpackedFloat.round .binary64 .positive m e := by
  have hcompare : compare (m : Int) 0 = .gt := by
    rw [Int.compare_eq_gt]
    omega
  unfold UnpackedFloat.normalize
  rw [hcompare]
  rfl

theorem add_finite {m₁ m₂ : Nat} (e₁ e₂ : Int) (h₁ : 0 < m₁) (h₂ : 0 < m₂) :
    add .binary64 (.finite .positive m₁ e₁ h₁) (.finite .positive m₂ e₂ h₂)
      = UnpackedFloat.round .binary64 .positive
          (m₁ <<< (e₁ - min e₁ e₂).toNat + m₂ <<< (e₂ - min e₁ e₂).toNat) (min e₁ e₂) :=
  normalize_of_pos (Nat.add_pos_left (Nat.shiftLeft_pos_iff.2 h₁) _) _ _

theorem bounded_add {a b q : ℚ} {u v : UnpackedFloat} (hu : Bounded a u) (hv : Bounded b v)
    (hq : IsNormal q) (h : q ≤ a + b) : Bounded q (add .binary64 u v) := by
  cases hu with
  | infinite => cases hv <;> exact .infinite
  | @finite m₁ e₁ hpos₁ _ _ hle₁ =>
      cases hv with
      | infinite => exact .infinite
      | @finite m₂ e₂ hpos₂ _ _ hle₂ =>
          rw [add_finite]
          refine bounded_round hq (Nat.add_pos_left (Nat.shiftLeft_pos_iff.2 hpos₁) _) ?_
          rw [scaled_add, scaled_decrease m₁ (min_le_left e₁ e₂),
            scaled_decrease m₂ (min_le_right e₁ e₂)]
          exact h.trans (add_le_add hle₁ hle₂)

theorem bounded_mul {a b q : ℚ} {u v : UnpackedFloat} (hu : Bounded a u) (hv : Bounded b v)
    (ha : 0 ≤ a) (hb : 0 ≤ b) (hq : IsNormal q) (h : q ≤ a * b) :
    Bounded q (mul .binary64 u v) := by
  cases hu with
  | infinite => cases hv <;> exact .infinite
  | @finite m₁ e₁ hpos₁ hplaces₁ _ hle₁ =>
      cases hv with
      | infinite => exact .infinite
      | @finite m₂ e₂ hpos₂ _ _ hle₂ =>
          refine bounded_roundWithAccuracy hq ?_ ?_ .exact
          · have hlow : 2 ^ 52 ≤ m₁ * m₂ :=
              ((Nat.log2_eq_iff hpos₁.ne').1 hplaces₁).1.trans (Nat.le_mul_of_pos_right m₁ hpos₂)
            exact (Nat.le_log2 (by omega)).2 hlow
          · rw [scaled_mul]
            exact h.trans (mul_le_mul hle₁ hle₂ hb (ha.trans hle₁))

/-! ## Packing -/

theorem ofBitVec_toBitVec (s : Sign) : Sign.ofBitVec s.toBitVec = s := by
  cases s <;> rfl

/-- What is packed with an exponent that is neither the smallest nor the largest. -/
theorem unpack_packComponents (s : Sign) {exponent : BitVec 11} (mantissa : BitVec 52)
    (hlarge : exponent ≠ -1#11) (hsmall : exponent ≠ 0#11)
    (hpos : 0 < (1#1 ++ mantissa).toNat) :
    UnpackedFloat.unpack .binary64 (packComponents .binary64 s exponent mantissa)
      = .finite s (1#1 ++ mantissa).toNat (exponent.toNat - 1075) hpos := by
  unfold UnpackedFloat.unpack
  simp only [unpackExponent_packComponents, unpackMantissa_packComponents,
    unpackSign_packComponents, ofBitVec_toBitVec]
  rw [if_neg hlarge, if_neg hsmall]
  rfl

/-- What is packed with the smallest exponent. -/
theorem unpack_packComponents_smallest (s : Sign) {mantissa : BitVec 52} (h : mantissa ≠ 0#52)
    (hpos : 0 < mantissa.toNat) :
    UnpackedFloat.unpack .binary64 (packComponents .binary64 s 0#11 mantissa)
      = .finite s mantissa.toNat (-1074) hpos := by
  unfold UnpackedFloat.unpack
  simp only [unpackExponent_packComponents, unpackMantissa_packComponents,
    unpackSign_packComponents, ofBitVec_toBitVec]
  rw [if_neg (by decide), if_pos trivial, dif_neg h]
  rfl

/-- The leading place of a mantissa is not stored. -/
theorem toNat_restored {m : Nat} (hm : m ≠ 0) (hlog : m.log2 = 52) :
    (1#1 ++ BitVec.ofNat 52 m).toNat = m := by
  obtain ⟨hlow, hhigh⟩ := (Nat.log2_eq_iff hm).1 hlog
  rw [BitVec.toNat_append, BitVec.toNat_ofNat, BitVec.toNat_ofNat,
    ← Nat.shiftLeft_add_eq_or_of_lt (Nat.mod_lt _ (by decide))]
  omega

theorem pack_finite (s : Sign) {m : Nat} (e : Int) (hm : 0 < m) :
    UnpackedFloat.pack .binary64 (.finite s m e hm)
      = if 2 ^ 11 ≤ (e + 1075).toNat + 1 then packedInfinity .binary64 s
        else if m.log2 = 52 then packComponents .binary64 s (BitVec.ofNat 11 (e + 1075).toNat)
          (BitVec.ofNat 52 m)
        else packComponents .binary64 s 0#11 (BitVec.ofNat 52 m) := by
  have hbias :
      (e + Format.binary64.exponentBias + Format.binary64.mantissaBitsWithoutImplicit).toNat
        = (e + 1075).toNat := by
    simp only [Format.exponentBias]
    omega
  have hplaces : m.log2 + 1 = Format.binary64.mantissaBits ↔ m.log2 = 52 := Nat.succ_inj
  unfold UnpackedFloat.pack
  dsimp only
  rw [hbias]
  simp only [hplaces]

/-- What a number becomes when it is packed: one whose exponent is too large becomes infinite, and
of one that is no normal double the last places are kept only, with the smallest exponent. -/
inductive Packed (s : Sign) (m : Nat) (e : Int) (hm : 0 < m) : UnpackedFloat → Prop where
  | infinite (large : 972 ≤ e) : Packed s m e hm (.infinity s)
  | same : Packed s m e hm (.finite s m e hm)
  | zero (small : m.log2 = 52 → e < -1074) : Packed s m e hm (.zero s)
  | tiny {m' : Nat} (small : m.log2 = 52 → e < -1074) (pos : 0 < m') (lt : m' < 2 ^ 52) :
      Packed s m e hm (.finite s m' (-1074) pos)

theorem packed_smallest {s : Sign} {m : Nat} {e : Int} {hm : 0 < m}
    (small : m.log2 = 52 → e < -1074) (mantissa : BitVec 52) :
    Packed s m e hm
      (UnpackedFloat.unpack .binary64 (packComponents .binary64 s 0#11 mantissa)) := by
  by_cases hzero : mantissa = 0#52
  · have hunpack : UnpackedFloat.unpack .binary64 (packComponents .binary64 s 0#11 0#52)
        = .zero s := by
      cases s <;> rfl
    rw [hzero, hunpack]
    exact .zero small
  · have hpos : 0 < mantissa.toNat := by
      rw [Nat.pos_iff_ne_zero]
      exact fun h => hzero (BitVec.eq_of_toNat_eq h)
    rw [unpack_packComponents_smallest s hzero hpos]
    exact .tiny small hpos mantissa.isLt

theorem packed_unpack_pack (s : Sign) {m : Nat} (e : Int) (hm : 0 < m) :
    Packed s m e hm (Float.Model.pack (.finite s m e hm)).unpack := by
  have hunpack : (Float.Model.pack (.finite s m e hm)).unpack
      = .unpack .binary64 (UnpackedFloat.pack .binary64 (.finite s m e hm)) := rfl
  rw [hunpack, pack_finite s e hm]
  split
  · next hlarge =>
    have hbound : 2048 ≤ (e + 1075).toNat + 1 := hlarge
    have hinfinite : UnpackedFloat.unpack .binary64 (packedInfinity .binary64 s) = .infinity s := by
      cases s <;> rfl
    rw [hinfinite]
    exact .infinite (by omega)
  next hrange =>
  have hbound : (e + 1075).toNat + 1 < 2048 := Nat.lt_of_not_le hrange
  split
  · next hlog =>
    by_cases hsmall : e + 1075 ≤ 0
    · rw [Int.toNat_of_nonpos hsmall]
      exact packed_smallest (fun _ => by omega) _
    · have hexponent : (BitVec.ofNat 11 (e + 1075).toNat).toNat = (e + 1075).toNat :=
        Nat.mod_eq_of_lt (by omega)
      have hne (k : Nat) (hk : k = 0 ∨ k = 2047) :
          BitVec.ofNat 11 (e + 1075).toNat ≠ BitVec.ofNat 11 k := by
        intro h
        have hvalue := congrArg BitVec.toNat h
        rw [hexponent, BitVec.toNat_ofNat] at hvalue
        omega
      have hmantissa := toNat_restored hm.ne' hlog
      have hunbiased : ((BitVec.ofNat 11 (e + 1075).toNat).toNat : Int) - 1075 = e := by omega
      rw [unpack_packComponents s _ (hne 2047 (.inr rfl)) (hne 0 (.inl rfl)) (hmantissa.symm ▸ hm)]
      simp only [hmantissa, hunbiased]
      exact .same
  · next hlog => exact packed_smallest (fun h => absurd h hlog) _

/-- A normal double is packed as itself, or as infinite if its exponent is too large. -/
theorem unpack_pack_finite {m : Nat} {e : Int} (hm : 0 < m) (hlog : m.log2 = 52) (he : -1074 ≤ e) :
    (Float.Model.pack (.finite .positive m e hm)).unpack = .infinity .positive ∨
      (Float.Model.pack (.finite .positive m e hm)).unpack = .finite .positive m e hm := by
  have hpacked := packed_unpack_pack .positive e hm
  generalize (Float.Model.pack (.finite .positive m e hm)).unpack = u at hpacked ⊢
  cases hpacked with
  | infinite large => exact .inl rfl
  | same => exact .inr rfl
  | zero small => exact absurd (small hlog) (not_lt.2 he)
  | tiny small => exact absurd (small hlog) (not_lt.2 he)

/-- Bounds survive packing. -/
theorem bounded_unpack_pack {q : ℚ} {u : UnpackedFloat} (h : Bounded q u) :
    Bounded q (Float.Model.pack u).unpack := by
  cases h with
  | infinite => exact .infinite
  | finite hpos hplaces hexponent hle =>
      rcases unpack_pack_finite hpos hplaces hexponent with hinfinite | hsame
      · rw [hinfinite]
        exact .infinite
      · rw [hsame]
        exact .finite hpos hplaces hexponent hle

/-! ## On doubles themselves -/

/-- A bound for a double. -/
def AtLeast (q : ℚ) (x : Float) : Prop := Bounded q x.toModel.unpack

/-- A number with few places, and not a tiny one, is a normal double. -/
theorem isNormal_scaled {m : Nat} (hm : 0 < m) (hplaces : m.log2 ≤ 52) {e : Int} (he : -1022 ≤ e) :
    IsNormal (scaled m e) := by
  refine ⟨m <<< (52 - m.log2), e - (52 - m.log2 : Nat), ?_, by omega, (scaled_shiftLeft m _ e).symm⟩
  rw [log2_shiftLeft hm, Nat.add_sub_cancel' hplaces]

theorem isNormal_one : IsNormal 1 := by
  have hone : scaled 1 0 = 1 := by rw [scaled_zero, Nat.cast_one]
  rw [← hone]
  exact isNormal_scaled (by decide) (by decide) (by decide)

variable {a b q : ℚ} {x y : Float}

theorem atLeast_of_unpack {m : Nat} {e : Int} (hm : 0 < m)
    (hx : x.toModel.unpack = .finite .positive m e hm) (hlog : m.log2 = 52) (he : -1074 ≤ e)
    (h : q ≤ scaled m e) : AtLeast q x := by
  rw [AtLeast, hx]
  exact .finite hm hlog he h

theorem AtLeast.add (hx : AtLeast a x) (hy : AtLeast b y) (hq : IsNormal q) (h : q ≤ a + b) :
    AtLeast q (x + y) :=
  bounded_unpack_pack (bounded_add hx hy hq h)

theorem AtLeast.mul (hx : AtLeast a x) (hy : AtLeast b y) (ha : 0 ≤ a) (hb : 0 ≤ b)
    (hq : IsNormal q) (h : q ≤ a * b) : AtLeast q (x * y) :=
  bounded_unpack_pack (bounded_mul hx hy ha hb hq h)

/-- A large number is read as a product with the power of ten that is one. -/
theorem ofScientific_zero {n : Nat} (hn : 0 < n) :
    UnpackedFloat.ofScientific .binary64 n 0
      = roundWithAccuracy .binary64 .positive (n <<< 53 * 1) (-53 + 0) .exact := by
  have hlarge : ¬ (0 : Int) > 2 ^ Format.binary64.exponentBits := by decide
  have hsmall : ¬ (0 : Int) < -(2 ^ Format.binary64.exponentBits + n.log2) :=
    not_lt.2 (neg_nonpos.2 (by positivity))
  rw [UnpackedFloat.ofScientific, dif_neg hn.ne', if_neg hlarge, if_neg hsmall, if_pos le_rfl]
  rfl

/-- A count of at most 53 places as a double. -/
theorem atLeast_toFloat {n : Nat} (hn : 0 < n) (hsmall : n < 2 ^ 53) (hq : IsNormal q)
    (h : q ≤ n) : AtLeast q n.toUInt64.toFloat := by
  have hcount : n.toUInt64.toNat = n := Nat.mod_eq_of_lt (by omega)
  have hround : n.toUInt64.toFloat.toModel
      = .pack (UnpackedFloat.normalize .binary64 n.toUInt64.toNat 0 .positive) := rfl
  rw [AtLeast, hround, hcount, normalize_of_pos hn]
  exact bounded_unpack_pack (bounded_round hq hn (h.trans (scaled_zero n).ge))

/-- A count as a double. -/
theorem atLeast_ofNat {n : Nat} (hn : 0 < n) (hq : IsNormal q) (hpos : 0 ≤ q) (h : q ≤ n) :
    AtLeast q (Float.ofNat n) := by
  have hread : Float.ofNat n = Float.ofScientific n false 0 := rfl
  rw [hread, Float.ofScientific]
  split
  · next hsmall =>
    have hone : AtLeast 1 (Float.ofBits 0x3FF0000000000000) :=
      atLeast_of_unpack (m := 2 ^ 52) (e := -52) (by decide) rfl (by decide) (by decide)
        (by norm_num [scaled])
    exact (atLeast_toFloat hn hsmall.1 hq h).mul hone hpos zero_le_one hq (mul_one q).ge
  · have hrounded : Bounded q (UnpackedFloat.ofScientific .binary64 n 0) := by
      rw [ofScientific_zero hn, mul_one]
      refine bounded_roundWithAccuracy hq ?_ ?_ .exact
      · rw [log2_shiftLeft hn]
        omega
      · have hsame : scaled (n <<< 53) (-53 + 0) = n :=
          (scaled_shiftLeft n 53 0).trans (scaled_zero n)
        exact h.trans hsame.ge
    exact bounded_unpack_pack hrounded

/-- A weight for each of a number of things. -/
theorem AtLeast.weighted (hx : AtLeast a x) (ha : 0 ≤ a) {k n : Nat} (hk : 0 < k)
    (hplaces : k.log2 ≤ 52) (hkn : k ≤ n) (hq : IsNormal q) (h : q ≤ a * k) :
    AtLeast q (x * Float.ofNat n) := by
  have hcount : AtLeast (scaled k 0) (Float.ofNat n) := by
    refine atLeast_ofNat (hk.trans_le hkn) (isNormal_scaled hk hplaces (by decide))
      (scaled_pos hk 0).le ?_
    rw [scaled_zero]
    exact mod_cast hkn
  exact hx.mul hcount ha (scaled_pos hk 0).le hq (by rwa [scaled_zero])

theorem add_zero_of_bounded {u : UnpackedFloat} (hu : Bounded q u) (s : Sign) :
    UnpackedFloat.add .binary64 u (.zero s) = u := by
  cases hu <;> rfl

/-- Adding a zero keeps a bound. -/
theorem AtLeast.add_zero (hx : AtLeast q x) {s : Sign} (hy : y.toModel.unpack = .zero s) :
    AtLeast q (x + y) := by
  have hsum : (x + y).toModel = .pack (UnpackedFloat.add .binary64 x.toModel.unpack (.zero s)) := by
    rw [← hy]
    rfl
  rw [AtLeast, hsum, add_zero_of_bounded hx]
  exact bounded_unpack_pack hx

/-- A double that is at least one, but not above it, is one. -/
theorem unpack_eq_one (hx : AtLeast 1 x) (hnot : ¬ 1.0 < x) :
    x.toModel.unpack = (1.0 : Float).toModel.unpack := by
  have hone : (1.0 : Float).toModel.unpack = .finite .positive (2 ^ 52) (-52) (by decide) := rfl
  rw [lt_iff, hone] at hnot
  rw [hone]
  rw [AtLeast] at hx
  generalize x.toModel.unpack = u at hx hnot ⊢
  cases hx with
  | infinite => exact absurd rfl hnot
  | @finite m e pos places _ le =>
      have hcompare : (compare (-52) e).then (compare (2 ^ 52) m) ≠ .lt := fun h =>
        hnot (congrArg some h)
      have hlow : -52 ≤ e := by
        have hpowers : (2 : ℚ) ^ (0 : Int) < 2 ^ (m.log2 + 1 + e : Int) :=
          le.trans_lt (scaled_lt m e)
        have hexponents := (zpow_lt_zpow_iff_right₀ one_lt_two).1 hpowers
        omega
      have hhigh : e ≤ -52 := by
        by_contra hlt
        rw [Int.compare_eq_lt.2 (not_le.1 hlt)] at hcompare
        exact hcompare rfl
      obtain rfl : e = -52 := le_antisymm hhigh hlow
      rw [Std.ReflOrd.compare_self] at hcompare
      have hm : m ≤ 2 ^ 52 := by
        by_contra hlt
        exact hcompare (Nat.compare_eq_lt.2 (not_le.1 hlt))
      obtain rfl : m = 2 ^ 52 := le_antisymm hm ((Nat.log2_eq_iff pos.ne').1 places).1
      rfl

end Planwright.Double
