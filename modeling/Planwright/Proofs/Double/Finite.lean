import Planwright.Double.Binary
import Planwright.Proofs.Double.Rank
import Planwright.Proofs.Double.Rounding

set_option autoImplicit false

/-!
# Results that stay finite

A sum, a product or a quotient of doubles is "not a number" only if something infinite goes into it,
and it becomes infinite only if it grows too large.  So it is enough to bound the sizes of doubles
by powers of two (`Within`): each operation is rounded, and rounding doubles a bound at most.
-/

namespace Planwright.Double

open Float.Model Float.Model.UnpackedFloat

/-- A number whose size is below a power of two. -/
inductive Limited (k : Int) : UnpackedFloat → Prop where
  | zero (s : Sign) : Limited k (.zero s)
  | finite {s : Sign} {m : Nat} {e : Int} (pos : 0 < m) (lt : scaled m e < 2 ^ k) :
      Limited k (.finite s m e pos)

theorem Limited.mono {k l : Int} {u : UnpackedFloat} (h : Limited k u) (hkl : k ≤ l) :
    Limited l u := by
  cases h with
  | zero s => exact .zero s
  | finite pos lt => exact .finite pos (lt.trans_le (zpow_le_zpow_right₀ one_le_two hkl))

/-! ## Rounding -/

theorem scaled_two_pow (j : Nat) (e : Int) : scaled (2 ^ j) e = 2 ^ (e + j) := by
  rw [scaled, Nat.cast_pow, Nat.cast_two, zpow_add₀ two_ne_zero, zpow_natCast, mul_comm]

/-- The leading place of a number is below every power of two that the number is below. -/
theorem length_lt {m : Nat} (hm : 0 < m) {e k : Int} (h : scaled m e < 2 ^ k) : m.log2 + e < k :=
  (zpow_lt_zpow_iff_right₀ one_lt_two).1 ((le_scaled hm.ne' e).trans_lt h)

/-- Cutting places off does not make a number larger. -/
theorem scaled_div_le (m : Nat) (e : Int) (n : Nat) : scaled (m / 2 ^ n) (e + n) ≤ scaled m e := by
  have hshift := scaled_shiftLeft (m / 2 ^ n) n (e + n)
  rw [add_sub_cancel_right] at hshift
  rw [← hshift, scaled_le_scaled_iff, Nat.shiftLeft_eq]
  exact Nat.div_mul_le_self m (2 ^ n)

/-- Cutting places off and rounding up does not take a number above a power of two. -/
theorem scaled_div_succ_le {m : Nat} {e k : Int} (h : scaled m e < 2 ^ k) {n : Nat}
    (hn : e + n ≤ k) : scaled (m / 2 ^ n + 1) (e + n) ≤ 2 ^ k := by
  obtain ⟨j, rfl⟩ : ∃ j : Nat, k = e + n + j := ⟨(k - (e + n)).toNat, by omega⟩
  have hm : m < 2 ^ (n + j) := by
    have hpower : (2 : ℚ) ^ (e + n + j) = scaled (2 ^ (n + j)) e := by
      rw [scaled_two_pow, Nat.cast_add, add_assoc]
    rwa [hpower, scaled_lt_scaled_iff] at h
  have hkept : m / 2 ^ n + 1 ≤ 2 ^ j :=
    (Nat.div_lt_iff_lt_mul (by positivity)).2 (by rwa [← Nat.pow_add, Nat.add_comm j n])
  rw [← scaled_two_pow]
  exact (scaled_le_scaled_iff _).2 hkept

/-- **Rounding.**  What is rounded may reach a power of two that it was below, no more. -/
theorem limited_roundWithAccuracy {m : Nat} {e k : Int} (h : scaled m e < 2 ^ k) (he : e ≤ k)
    (hk : -1074 ≤ k) (s : Sign) (a : Accuracy) :
    Limited (k + 1) (roundWithAccuracy .binary64 s m e a) := by
  have hshifted (m : Nat) (e : Int) (a : Accuracy) : ∃ n : Nat,
      shiftToTargetExponent .binary64 m e a
        = (ExtendedMantissa.ofMantissaAndAccuracy m a >>> n, e + n) ∧
      e + n = max e (max (m.log2 + e - 52) (-1074)) := by
    refine ⟨_, rfl, ?_⟩
    simp only [Format.targetExponent, totalExponent, Format.mantissaBits, Format.minExponent]
    omega
  have hlength : m.log2 + e - 52 ≤ k := by
    rcases Nat.eq_zero_or_pos m with rfl | hm
    · rw [Nat.log2_zero]
      omega
    · have hlt := length_lt hm h
      omega
  obtain ⟨n, hfirst, hexponent⟩ := hshifted m e a
  unfold roundWithAccuracy
  rw [hfirst]
  dsimp only
  have hkept := mantissa_le_roundedMantissa (ExtendedMantissa.ofMantissaAndAccuracy m a >>> n)
  rw [mantissa_shiftRight, mantissa_ofMantissaAndAccuracy] at hkept
  generalize (ExtendedMantissa.ofMantissaAndAccuracy m a >>> n).roundedMantissa = r at hkept ⊢
  obtain ⟨n', hsecond, -⟩ := hshifted r (e + n) .exact
  rw [hsecond]
  dsimp only
  rw [mantissa_shiftRight, mantissa_ofMantissaAndAccuracy]
  split
  · exact .zero s
  · refine .finite _ ?_
    calc scaled (r / 2 ^ n') (e + n + n') ≤ scaled r (e + n) := scaled_div_le r _ n'
      _ ≤ scaled (m / 2 ^ n + 1) (e + n) := (scaled_le_scaled_iff _).2 hkept.2
      _ ≤ 2 ^ k := scaled_div_succ_le h (by omega)
      _ < 2 ^ (k + 1) := zpow_lt_zpow_right₀ one_lt_two (Int.lt_succ k)

/-- What is rounded after it was given more places, if it has too few. -/
theorem limited_round {m : Nat} {e k : Int} (h : scaled m e < 2 ^ k) (he : e ≤ k)
    (hk : -1074 ≤ k) (s : Sign) : Limited (k + 1) (UnpackedFloat.round .binary64 s m e) := by
  unfold UnpackedFloat.round decreaseExponent
  refine limited_roundWithAccuracy ?_ (by omega) hk s .exact
  rw [scaled_shiftLeft]
  exact h

theorem limited_normalize {n : Int} {e k : Int} (h : scaled n.natAbs e < 2 ^ k) (he : e ≤ k)
    (hk : -1074 ≤ k) (s : Sign) : Limited (k + 1) (UnpackedFloat.normalize .binary64 n e s) := by
  unfold UnpackedFloat.normalize
  split
  · next hneg =>
    have habs : (-n).toNat = n.natAbs := by
      have := Int.compare_eq_lt.1 hneg
      omega
    rw [habs]
    exact limited_round h he hk .negative
  · exact .zero s
  · next hpos =>
    have habs : n.toNat = n.natAbs := by
      have := Int.compare_eq_gt.1 hpos
      omega
    rw [habs]
    exact limited_round h he hk .positive

/-! ## Arithmetic -/

section

variable {k l : Int} {u v : UnpackedFloat}

theorem Limited.neg (hu : Limited k u) : Limited k u.neg := by
  cases hu with
  | zero s => exact .zero (-s)
  | finite pos lt => exact .finite pos lt

theorem natAbs_apply (s : Sign) (m : Nat) : (s.apply m).natAbs = m := by
  cases s
  · exact Int.natAbs_neg _
  · rfl

theorem limited_add (hu : Limited k u) (hv : Limited k v) (hk : -1075 ≤ k) :
    Limited (k + 2) (add .binary64 u v) := by
  cases hu with
  | zero s =>
      cases hv with
      | zero t =>
          unfold UnpackedFloat.add
          dsimp only
          split <;> exact .zero _
      | finite pos lt => exact (Limited.finite pos lt).mono (by omega)
  | @finite s₁ m₁ e₁ pos₁ lt₁ =>
      cases hv with
      | zero t => exact (Limited.finite pos₁ lt₁).mono (by omega)
      | @finite s₂ m₂ e₂ pos₂ lt₂ =>
          have hexponent : min e₁ e₂ ≤ k + 1 := by
            have := length_lt pos₁ lt₁
            omega
          have hk' : k + 2 = k + 1 + 1 := by omega
          rw [hk']
          refine limited_normalize ?_ hexponent (by omega) .positive
          have hsum : (s₁.apply (m₁ <<< (e₁ - min e₁ e₂).toNat)
                + s₂.apply (m₂ <<< (e₂ - min e₁ e₂).toNat)).natAbs
              ≤ m₁ <<< (e₁ - min e₁ e₂).toNat + m₂ <<< (e₂ - min e₁ e₂).toNat :=
            (Int.natAbs_add_le _ _).trans_eq (by rw [natAbs_apply, natAbs_apply])
          calc scaled _ (min e₁ e₂) ≤ scaled _ (min e₁ e₂) := (scaled_le_scaled_iff _).2 hsum
            _ = scaled m₁ e₁ + scaled m₂ e₂ := by
                rw [scaled_add, scaled_decrease m₁ (min_le_left e₁ e₂),
                  scaled_decrease m₂ (min_le_right e₁ e₂)]
            _ < 2 ^ k + 2 ^ k := add_lt_add lt₁ lt₂
            _ = 2 ^ (k + 1) := by rw [zpow_add_one₀ two_ne_zero, mul_two]

/-- A difference is a sum with the opposite number. -/
theorem sub_eq_add_neg (u v : UnpackedFloat) :
    UnpackedFloat.sub .binary64 u v = UnpackedFloat.add .binary64 u v.neg := by
  have hopposite (s : Sign) (m : Nat) : (-s).apply m = -s.apply m := by
    cases s
    · exact (Int.neg_neg _).symm
    · rfl
  cases u with
  | finite s m e hm =>
      cases v with
      | finite t n d hn =>
          unfold UnpackedFloat.sub UnpackedFloat.add UnpackedFloat.neg
          dsimp only
          rw [hopposite, Int.sub_eq_add_neg]
      | _ => rfl
  | _ => cases v <;> rfl

theorem limited_sub (hu : Limited k u) (hv : Limited k v) (hk : -1075 ≤ k) :
    Limited (k + 2) (UnpackedFloat.sub .binary64 u v) := by
  rw [sub_eq_add_neg]
  exact limited_add hu hv.neg hk

theorem limited_mul (hu : Limited k u) (hv : Limited l v) (hkl : -1074 ≤ k + l) :
    Limited (k + l + 1) (UnpackedFloat.mul .binary64 u v) := by
  cases hu with
  | zero s => cases hv <;> exact .zero _
  | @finite s₁ m₁ e₁ pos₁ lt₁ =>
      cases hv with
      | zero t => exact .zero _
      | @finite s₂ m₂ e₂ pos₂ lt₂ =>
          have hexponent : e₁ + e₂ ≤ k + l := by
            have := length_lt pos₁ lt₁
            have := length_lt pos₂ lt₂
            omega
          refine limited_roundWithAccuracy ?_ hexponent hkl _ .exact
          rw [scaled_mul, zpow_add₀ two_ne_zero]
          exact mul_lt_mul'' lt₁ lt₂ (scaled_pos pos₁ e₁).le (scaled_pos pos₂ e₂).le

/-- A quotient of two numbers of which the first is less than so many times the second. -/
theorem limited_div_finite {s₁ s₂ : Sign} {m₁ m₂ : Nat} {e₁ e₂ : Int} (h₁ : 0 < m₁) (h₂ : 0 < m₂)
    (h : scaled m₁ e₁ < 2 ^ k * scaled m₂ e₂) (hk : -1074 ≤ k) :
    Limited (k + 1)
      (UnpackedFloat.div .binary64 (.finite s₁ m₁ e₁ h₁) (.finite s₂ m₂ e₂ h₂)) := by
  have hlengths : m₁.log2 + e₁ < k + (m₂.log2 + 1 + e₂) := by
    refine length_lt h₁ (h.trans ?_)
    rw [zpow_add₀ two_ne_zero k]
    exact mul_lt_mul_of_pos_left (scaled_lt m₂ e₂) (by positivity)
  have hdiv : UnpackedFloat.div .binary64 (.finite s₁ m₁ e₁ h₁) (.finite s₂ m₂ e₂ h₂)
      = roundWithAccuracy .binary64 (s₁ / s₂) (divCore .binary64 m₁ e₁ m₂ e₂).1
          (divCore .binary64 m₁ e₁ m₂ e₂).2.1 (divCore .binary64 m₁ e₁ m₂ e₂).2.2 := rfl
  have hexponent : (divCore .binary64 m₁ e₁ m₂ e₂).2.1
      = min (e₁ - e₂) (max (m₁.log2 + e₁ - (m₂.log2 + e₂) - 53) (-1074)) := by
    unfold divCore
    simp only [Format.targetExponent, totalExponent, Format.mantissaBits, Format.minExponent]
    omega
  have hmantissa : (divCore .binary64 m₁ e₁ m₂ e₂).1
      = (m₁ <<< (e₁ - e₂ - (divCore .binary64 m₁ e₁ m₂ e₂).2.1).toNat) / m₂ := rfl
  rw [hdiv]
  generalize (divCore .binary64 m₁ e₁ m₂ e₂).2.1 = e at hexponent hmantissa ⊢
  rw [hmantissa]
  refine limited_roundWithAccuracy ?_ (by omega) hk _ _
  have hshift : (e₁ - e₂ - e).toNat = (e₁ - (e + e₂)).toNat := by omega
  have hproduct : scaled ((m₁ <<< (e₁ - e₂ - e).toNat) / m₂) e * scaled m₂ e₂
      < 2 ^ k * scaled m₂ e₂ := by
    rw [← scaled_mul]
    calc scaled _ (e + e₂) ≤ scaled (m₁ <<< (e₁ - e₂ - e).toNat) (e + e₂) :=
          (scaled_le_scaled_iff _).2 (Nat.div_mul_le_self _ m₂)
      _ = scaled m₁ e₁ := by rw [hshift, scaled_decrease m₁ (by omega)]
      _ < 2 ^ k * scaled m₂ e₂ := h
  exact lt_of_mul_lt_mul_right hproduct (scaled_pos h₂ e₂).le

/-- Dividing by what is at least one does not make a number larger. -/
theorem limited_div (hu : Limited k u) (hv : Bounded 1 v) (hk : -1074 ≤ k) :
    Limited (k + 1) (UnpackedFloat.div .binary64 u v) := by
  cases hu with
  | zero s => cases hv <;> exact .zero _
  | finite pos₁ lt₁ =>
      cases hv with
      | infinite => exact .zero _
      | finite pos₂ places exponent le =>
          refine limited_div_finite pos₁ pos₂ (lt₁.trans_le ?_) hk
          exact le_mul_of_one_le_right (by positivity) le

end

/-! ## Packing -/

theorem Limited.unpack_pack {k : Int} {u : UnpackedFloat} (h : Limited k u) (hlow : -1022 ≤ k)
    (hhigh : k ≤ 972) : Limited k (Float.Model.pack u).unpack := by
  cases h with
  | zero s => cases s <;> exact .zero _
  | @finite s m e pos lt =>
      have hpacked := packed_unpack_pack s e pos
      generalize (Float.Model.pack (.finite s m e pos)).unpack = u at hpacked ⊢
      cases hpacked with
      | infinite large =>
          have := length_lt pos lt
          omega
      | same => exact .finite pos lt
      | zero small => exact .zero s
      | @tiny m' small pos' lt' =>
          refine .finite pos' ?_
          calc scaled m' (-1074) < scaled (2 ^ 52) (-1074) := (scaled_lt_scaled_iff _).2 lt'
            _ = 2 ^ (-1022 : Int) := by rw [scaled_two_pow]; rfl
            _ ≤ 2 ^ k := zpow_le_zpow_right₀ one_le_two hlow

/-! ## What is a number -/

theorem Limited.isNaN {k : Int} {u : UnpackedFloat} (h : Limited k u) : u.isNaN = false := by
  cases h <;> rfl

theorem isNaN_unpack_pack (u : UnpackedFloat) : (Float.Model.pack u).unpack.isNaN = u.isNaN := by
  cases u with
  | notANumber => rfl
  | infinity s => cases s <;> rfl
  | zero s => cases s <;> rfl
  | finite s m e hm =>
      have hpacked := packed_unpack_pack s e hm
      generalize (Float.Model.pack (.finite s m e hm)).unpack = u at hpacked ⊢
      cases hpacked <;> rfl

theorem isNaN_normalize (n e : Int) (s : Sign) :
    (UnpackedFloat.normalize .binary64 n e s).isNaN = false := by
  have hround (s : Sign) (m : Nat) (e : Int) (a : Accuracy) :
      (roundWithAccuracy .binary64 s m e a).isNaN = false := by
    unfold roundWithAccuracy
    dsimp only
    split <;> rfl
  unfold UnpackedFloat.normalize UnpackedFloat.round
  split
  · exact hround _ _ _ _
  · rfl
  · exact hround _ _ _ _

/-- Only opposite infinities have no sum. -/
theorem isNaN_add {k : Int} {u v : UnpackedFloat} (hu : Limited k u) (hv : v.isNaN = false) :
    (UnpackedFloat.add .binary64 u v).isNaN = false := by
  cases hu with
  | zero s =>
      cases v with
      | notANumber => cases hv
      | zero t =>
          unfold UnpackedFloat.add
          dsimp only
          split <;> rfl
      | _ => rfl
  | finite pos lt =>
      cases v with
      | notANumber => cases hv
      | finite t n d hn => exact isNaN_normalize _ _ _
      | _ => rfl

/-! ## On doubles themselves -/

/-- A double whose size is below a power of two. -/
def Within (k : Nat) (x : Float) : Prop := Limited k x.toModel.unpack

variable {k l : Nat} {x y : Float}

theorem within_of_unpack {s : Sign} {m : Nat} {e : Int} (hm : 0 < m)
    (hx : x.toModel.unpack = .finite s m e hm) (h : scaled m e < 2 ^ k) : Within k x := by
  rw [Within, hx]
  refine .finite hm ?_
  rwa [zpow_natCast]

theorem Within.mono (hx : Within k x) (hkl : k ≤ l) : Within l x :=
  Limited.mono hx (Int.ofNat_le.2 hkl)

theorem Within.isNaN (hx : Within k x) : x.isNaN = false := Limited.isNaN hx

theorem Within.neg (hx : Within k x) (hk : k ≤ 972) : Within k (-x) :=
  (Limited.neg hx).unpack_pack (by omega) (by omega)

theorem Within.add (hx : Within k x) (hy : Within k y) (hk : k ≤ 970) : Within (k + 2) (x + y) :=
  (limited_add hx hy (by omega)).unpack_pack (by omega) (by omega)

theorem Within.sub (hx : Within k x) (hy : Within k y) (hk : k ≤ 970) : Within (k + 2) (x - y) :=
  (limited_sub hx hy (by omega)).unpack_pack (by omega) (by omega)

theorem Within.mul (hx : Within k x) (hy : Within l y) (hkl : k + l ≤ 971) :
    Within (k + l + 1) (x * y) :=
  (limited_mul hx hy (by omega)).unpack_pack (by omega) (by omega)

theorem Within.div (hx : Within k x) (hy : AtLeast 1 y) (hk : k ≤ 971) : Within (k + 1) (x / y) :=
  (limited_div hx hy (by omega)).unpack_pack (by omega) (by omega)

theorem scaled_natCast_lt {n : Nat} (hn : n < 2 ^ k) : scaled n 0 < 2 ^ (k : Int) := by
  rw [scaled_zero, zpow_natCast]
  exact mod_cast hn

/-- A count as a double. -/
theorem within_ofNat {n : Nat} (hn : n < 2 ^ k) (hk : k ≤ 969) :
    Within (k + 3) (Float.ofNat n) := by
  have hread : Float.ofNat n = Float.ofScientific n false 0 := rfl
  rw [hread, Float.ofScientific]
  split
  · next hsmall =>
    have hcount : n.toUInt64.toNat = n := Nat.mod_eq_of_lt (by omega)
    have hfloat : Within (k + 1) n.toUInt64.toFloat := by
      have hround : n.toUInt64.toFloat.toModel
          = .pack (UnpackedFloat.normalize .binary64 n.toUInt64.toNat 0 .positive) := rfl
      have hlimited : Limited (k + 1) (UnpackedFloat.normalize .binary64 n 0 .positive) :=
        limited_normalize (scaled_natCast_lt hn) (by omega) (by omega) .positive
      rw [Within, hround, hcount]
      exact hlimited.unpack_pack (by omega) (by omega)
    have hone : Within 1 (Float.ofBits 0x3FF0000000000000) :=
      within_of_unpack (m := 2 ^ 52) (e := -52) (by decide) rfl (by norm_num [scaled])
    exact hfloat.mul hone (by omega)
  · next hlarge =>
    have hpos : 0 < n := by
      by_contra hzero
      exact hlarge ⟨by omega, by decide⟩
    have hlimited : Limited (k + 1) (UnpackedFloat.ofScientific .binary64 n 0) := by
      rw [ofScientific_zero hpos, mul_one]
      refine limited_roundWithAccuracy ?_ (by omega) (by omega) .positive .exact
      have hsame : scaled (n <<< 53) (-53 + 0) = scaled n 0 := scaled_shiftLeft n 53 0
      rw [hsame]
      exact scaled_natCast_lt hn
    have hrounded : Within (k + 1) ⟨Float.Model.ofScientific n 0⟩ :=
      hlimited.unpack_pack (by omega) (by omega)
    exact hrounded.mono (by omega)

theorem Within.isNaN_add (hx : Within k x) (hy : y.isNaN = false) : (x + y).isNaN = false :=
  (isNaN_unpack_pack _).trans (Double.isNaN_add hx hy)

/-! ## Whole numbers -/

/-- The significand and the exponent of a finite double. -/
theorem bounds_of_parts {negative : Bool} {m : Nat} {e : Int}
    (h : parts x = ⟨negative, .finite m e⟩) : m < 2 ^ 53 ∧ -1074 ≤ e := by
  have hmagnitude := congrArg Parts.magnitude h
  unfold parts partsOfBits at hmagnitude
  dsimp only at hmagnitude
  have hfraction : x.toBits.toNat % (1 <<< 52) < 2 ^ 52 := Nat.mod_lt _ (by decide)
  generalize x.toBits.toNat % (1 <<< 52) = fraction at hmagnitude hfraction
  generalize (x.toBits.toNat >>> 52) % (1 <<< 11) = field at hmagnitude
  split at hmagnitude
  · split at hmagnitude <;> cases hmagnitude
  · split at hmagnitude
    · cases hmagnitude
      exact ⟨by omega, by decide⟩
    · cases hmagnitude
      exact ⟨by omega, by omega⟩

/-- A double of any size has no places, or it has few digits before them. -/
theorem Within.nearestWhole (hx : Within k x) (hk : 56 ≤ k) (hk' : k ≤ 972) :
    Within k (nearestWhole x) := by
  unfold Double.nearestWhole
  split
  · next negative m e hparts =>
    split
    · next hplaces =>
      have hm := (bounds_of_parts hparts).1
      have hwhole : (m + (1 <<< ((-e).toNat - 1))) >>> (-e).toNat < 2 ^ 53 := by
        obtain ⟨p, hp⟩ : ∃ p, (-e).toNat = p + 1 := ⟨(-e).toNat - 1, by omega⟩
        rw [hp, Nat.add_sub_cancel, Nat.shiftRight_eq_div_pow, Nat.one_shiftLeft]
        refine Nat.div_lt_of_lt_mul ?_
        have hpos : 1 ≤ 2 ^ p := Nat.one_le_two_pow
        rw [Nat.pow_succ]
        omega
      have hcount := (within_ofNat hwhole (by decide)).mono hk
      dsimp only
      split
      · exact hcount.neg hk'
      · exact hcount
    · exact hx
  · exact hx

/-! ## Shares -/

theorem within_zero {s : Sign} (hx : x.toModel.unpack = .zero s) : Within k x := by
  rw [Within, hx]
  exact .zero s

theorem Storable.scaled_lt {m : Nat} {e : Int} (h : Storable m e) : scaled m e < 2 ^ (e + 53) := by
  have hpower : (2 : ℚ) ^ (e + 53) = scaled (2 ^ 53) e := (scaled_two_pow 53 e).symm
  rw [hpower, scaled_lt_scaled_iff]
  exact h.mantissa

/-- A share is zero, or its exponent is none of a number above one. -/
theorem within_of_share (hlow : 0.0 ≤ x) (hhigh : x ≤ 1.0) : Within 1 x := by
  have hplace := (le_iff_place_le (isNaN_of_le hlow).2 (by decide)).1 hhigh
  have hstored : Stored x.toModel.unpack := stored_unpack _
  have hnonneg := nonneg_of_le hlow
  have hone : place (1.0 : Float).toModel.unpack = distance (2 ^ 52) (-52) := by decide
  rw [hone] at hplace
  rw [Within]
  generalize x.toModel.unpack = u at hplace hstored hnonneg ⊢
  cases hnonneg with
  | zero s => exact .zero s
  | infinite => exact absurd hplace (by decide)
  | @finite m e pos =>
      have hstorable := hstored _ _ _ _ rfl
      have hexponent : e ≤ -52 :=
        hstorable.exponent_le ⟨by decide, by decide, by decide⟩ (Int.ofNat_le.1 hplace)
      exact .finite pos (hstorable.scaled_lt.trans_le (zpow_le_zpow_right₀ one_le_two (by omega)))

/-- What is not above a finite number is finite. -/
theorem within_of_le (hlow : 0.0 ≤ x) (hle : x ≤ y) (hy : Within k y) : Within 1024 x := by
  obtain ⟨hnumber, hnumber'⟩ := isNaN_of_le hle
  have hplace := (le_iff_place_le hnumber hnumber').1 hle
  have hnonneg := nonneg_of_le hlow
  have hstored : Stored x.toModel.unpack := stored_unpack _
  have hstored' : Stored y.toModel.unpack := stored_unpack _
  rw [Within] at hy ⊢
  generalize x.toModel.unpack = u at hplace hnonneg hstored ⊢
  generalize y.toModel.unpack = v at hplace hy hstored'
  cases hnonneg with
  | zero s => exact .zero s
  | infinite =>
      cases hy with
      | zero s => cases s <;> exact absurd hplace (by decide)
      | finite pos lt =>
          exact absurd hplace (place_finite_bounds pos (hstored' _ _ _ _ rfl)).2.not_ge
  | @finite m e pos =>
      have hstorable := hstored _ _ _ _ rfl
      have hexponent : e + 53 ≤ 1024 := by
        have := hstorable.greatest
        omega
      exact .finite pos (hstorable.scaled_lt.trans_le (zpow_le_zpow_right₀ one_le_two hexponent))

/-- A number in its ratio to one that is not smaller. -/
theorem within_ratio (hlow : 0.0 ≤ x) (hx : Within l x) (hle : x ≤ y) (hy : 0.0 < y) :
    Within 54 (x / y) := by
  obtain ⟨hnumber, hnumber'⟩ := isNaN_of_le hle
  have hplace := (le_iff_place_le hnumber hnumber').1 hle
  have hpos : 0 < place y.toModel.unpack := (lt_iff_place_lt (by decide) hnumber').1 hy
  have hnonneg := nonneg_of_le hlow
  have hnonneg' := nonneg_of_place hnumber' hpos.le
  have hstored : Stored x.toModel.unpack := stored_unpack _
  have hstored' : Stored y.toModel.unpack := stored_unpack _
  have hquotient : Limited 54 (UnpackedFloat.div .binary64 x.toModel.unpack y.toModel.unpack) := by
    rw [Within] at hx
    generalize x.toModel.unpack = u at hx hplace hnonneg hstored ⊢
    generalize y.toModel.unpack = v at hplace hpos hnonneg' hstored' ⊢
    cases hnonneg' with
    | zero s => exact absurd hpos (lt_irrefl _)
    | infinite =>
        cases hx <;> exact .zero _
    | @finite n d pos' =>
        cases hnonneg with
        | zero s => exact .zero _
        | infinite => cases hx
        | @finite m e pos =>
            have hstorable := hstored _ _ _ _ rfl
            have hexponent : e ≤ d :=
              hstorable.exponent_le (hstored' _ _ _ _ rfl) (Int.ofNat_le.1 hplace)
            refine limited_div_finite (k := 53) pos pos' ?_ (by decide)
            have hunit : (1 : Nat) ≤ n := pos'
            calc scaled m e < 2 ^ (e + 53) := hstorable.scaled_lt
              _ ≤ 2 ^ (53 + d) := zpow_le_zpow_right₀ one_le_two (by omega)
              _ = 2 ^ (53 : Int) * scaled 1 d := by
                  rw [zpow_add₀ two_ne_zero, scaled, Nat.cast_one, one_mul]
              _ ≤ 2 ^ (53 : Int) * scaled n d := by
                  gcongr
                  exact (scaled_le_scaled_iff d).2 hunit
  exact hquotient.unpack_pack (by decide) (by decide)

end Planwright.Double
