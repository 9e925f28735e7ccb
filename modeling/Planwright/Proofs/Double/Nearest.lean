import Planwright.Proofs.Double.Finite

set_option autoImplicit false

/-!
# Rounding to nearest

Of a number that is cut off, the arithmetic keeps how it lies to the half of the last place
(`Accurate`), also while places are shifted out (`StandsFor.shiftRight`).  So what is rounded is as
near to the exact result as any number of 53 places: in rounding (`nearest_roundWithAccuracy`) and
in division (`nearest_div`), as long as the result is not as small as the subnormal doubles.
-/

namespace Planwright.Double

open Float.Model Float.Model.UnpackedFloat

/-! ## Accuracy -/

/-- What the accuracy of a mantissa says about the number that it was cut off from. -/
def Accurate (m : Nat) (t : ℚ) : Accuracy → Prop
  | .exact => t = m
  | .inexact .lt => m < t ∧ t < m + 1 / 2
  | .inexact .eq => t = m + 1 / 2
  | .inexact .gt => m + 1 / 2 < t ∧ t < m + 1

/-- A mantissa with its residual bits stands for a number. -/
def StandsFor (em : ExtendedMantissa) (t : ℚ) : Prop := Accurate em.mantissa t em.accuracy

variable {m : Nat} {t : ℚ} {a : Accuracy} {em : ExtendedMantissa}

theorem standsFor_ofMantissaAndAccuracy (h : Accurate m t a) :
    StandsFor (.ofMantissaAndAccuracy m a) t := by
  unfold ExtendedMantissa.ofMantissaAndAccuracy
  split <;> exact h

/-- One place less: the last place goes into the round bit, and what stood there into the other. -/
theorem StandsFor.shiftRightOne (h : StandsFor em t) : StandsFor em.shiftRightOne (t / 2) := by
  obtain ⟨m, roundBit, stickyBit⟩ := em
  have hodd (k : Nat) : (2 * k + 1) / 2 = k := by omega
  obtain ⟨k, rfl | rfl⟩ := Nat.even_or_odd' m <;> cases roundBit <;> cases stickyBit <;>
    simp [StandsFor, Accurate, ExtendedMantissa.accuracy, ExtendedMantissa.shiftRightOne, hodd]
      at h ⊢ <;>
    first | linarith | (constructor <;> linarith)

theorem StandsFor.shiftRight (h : StandsFor em t) (k : Nat) : StandsFor (em >>> k) (t / 2 ^ k) := by
  induction k with
  | zero => rwa [pow_zero, div_one]
  | succ k ih =>
      rw [pow_succ, ← div_div]
      exact ih.shiftRightOne

/-- A rounded mantissa is off by a half at most. -/
theorem Accurate.roundToNearestEven_near (h : Accurate m t a) :
    |(a.roundToNearestEven m : ℚ) - t| ≤ 1 / 2 := by
  have hlast : ((m % 2 : Nat) : ℚ) ≤ 1 := mod_cast Nat.le_of_lt_succ (Nat.mod_lt m two_pos)
  have hlast' : 0 ≤ ((m % 2 : Nat) : ℚ) := Nat.cast_nonneg _
  rw [abs_le]
  cases a with
  | exact =>
      have hexact : t = m := h
      rw [Accuracy.roundToNearestEven]
      constructor <;> linarith only [hexact]
  | inexact half =>
      cases half with
      | lt =>
          obtain ⟨hlow, hhigh⟩ : (m : ℚ) < t ∧ t < m + 1 / 2 := h
          rw [Accuracy.roundToNearestEven]
          constructor <;> linarith only [hlow, hhigh]
      | eq =>
          have hhalf : t = m + 1 / 2 := h
          rw [Accuracy.roundToNearestEven, Nat.cast_add]
          constructor <;> linarith only [hhalf, hlast, hlast']
      | gt =>
          obtain ⟨hlow, hhigh⟩ : (m : ℚ) + 1 / 2 < t ∧ t < m + 1 := h
          rw [Accuracy.roundToNearestEven, Nat.cast_succ]
          constructor <;> linarith only [hlow, hhigh]

/-- What is off by a half at most is the nearest whole number. -/
theorem nearest_of_near {r : Nat} (h : |r - t| ≤ 1 / 2) (k : Nat) : |r - t| ≤ |k - t| := by
  rcases eq_or_ne r k with rfl | hne
  · exact le_rfl
  · have hdistinct : (1 : Int) ≤ |(k : Int) - r| := Int.one_le_abs (by omega)
    have hstep : (1 : ℚ) ≤ |(k : ℚ) - r| := by exact_mod_cast hdistinct
    have htriangle := abs_sub_le (k : ℚ) t r
    rw [abs_sub_comm t r] at htriangle
    linarith only [h, hstep, htriangle]

theorem Accurate.le (h : Accurate m t a) : m ≤ t := by
  cases a with
  | exact =>
      have hexact : t = m := h
      exact hexact.ge
  | inexact half =>
      cases half with
      | lt => exact h.1.le
      | eq =>
          have hhalf : t = m + 1 / 2 := h
          linarith only [hhalf]
      | gt =>
          obtain ⟨hlow, -⟩ : (m : ℚ) + 1 / 2 < t ∧ t < m + 1 := h
          linarith only [hlow]

/-! ## Rounding -/

/-- A normal double that is as near to `q` as any number of 53 places. -/
inductive Nearest (q : ℚ) : UnpackedFloat → Prop where
  | finite {m : Nat} {e : Int} (pos : 0 < m) (places : m.log2 = 52) (exponent : -1074 ≤ e)
      (nearest : ∀ n d, n < 2 ^ 53 → |scaled m e - q| ≤ |scaled n d - q|) :
      Nearest q (.finite .positive m e pos)

/-- Cutting off places that are all zero changes nothing. -/
theorem scaled_div {m k : Nat} (h : 2 ^ k ∣ m) (e : Int) :
    scaled (m / 2 ^ k) (e + k) = scaled m e := by
  obtain ⟨n, rfl⟩ := h
  have hshift := scaled_shiftLeft n k (e + k)
  rw [add_sub_cancel_right, Nat.shiftLeft_eq, Nat.mul_comm] at hshift
  rw [Nat.mul_div_cancel_left n (by positivity), hshift]

/-- The nearest whole number of units `2 ^ e` is nearest among all numbers of 53 places, if there
are so many places before the point. -/
theorem nearest_of_units {r : Nat} (hr : |r - t| ≤ 1 / 2) (ht : 2 ^ 52 ≤ t) (e : Int) {n : Nat}
    (hn : n < 2 ^ 53) (d : Int) : |scaled r e - t * 2 ^ e| ≤ |scaled n d - t * 2 ^ e| := by
  have hunit : (0 : ℚ) < 2 ^ e := by positivity
  have hscaled (k : Nat) : |scaled k e - t * 2 ^ e| = |(k : ℚ) - t| * 2 ^ e := by
    rw [scaled, ← sub_mul, abs_mul, abs_of_pos hunit]
  have hwhole (k : Nat) : |scaled r e - t * 2 ^ e| ≤ |scaled k e - t * 2 ^ e| := by
    rw [hscaled, hscaled]
    exact mul_le_mul_of_nonneg_right (nearest_of_near hr k) hunit.le
  rcases le_or_gt e d with hle | hlt
  · -- a number of such units itself
    rw [← scaled_decrease n hle]
    exact hwhole _
  · -- a smaller number than all with so many places in these units
    have hsmall : scaled n d ≤ scaled (2 ^ 52) e :=
      calc scaled n d ≤ scaled (2 ^ 53) d := (scaled_le_scaled_iff d).2 hn.le
        _ = 2 ^ (d + 53) := scaled_two_pow 53 d
        _ ≤ 2 ^ (e + 52) := zpow_le_zpow_right₀ one_le_two (by omega)
        _ = scaled (2 ^ 52) e := (scaled_two_pow 52 e).symm
    have hbelow : scaled (2 ^ 52) e ≤ t * 2 ^ e := by
      rw [scaled]
      gcongr
      exact_mod_cast ht
    have hfirst := hwhole (2 ^ 52)
    rw [abs_of_nonpos (sub_nonpos.2 hbelow)] at hfirst
    rw [abs_of_nonpos (sub_nonpos.2 (hsmall.trans hbelow))]
    linarith only [hfirst, hsmall]

/-- **Rounding** a number that has enough places, and is not tiny, gives a nearest double. -/
theorem nearest_roundWithAccuracy {e : Int} (hm : 52 ≤ m.log2) (he : -1022 ≤ m.log2 + e)
    (h : Accurate m t a) :
    Nearest (t * 2 ^ e) (roundWithAccuracy .binary64 .positive m e a) := by
  unfold roundWithAccuracy
  rw [shiftToTargetExponent_eq he]
  dsimp only
  have hfirst := (standsFor_ofMantissaAndAccuracy h).shiftRight (m.log2 - 52)
  have hleading := log2_leading hm
  have hunits : t * 2 ^ e = t / 2 ^ (m.log2 - 52) * 2 ^ (e + (m.log2 - 52 : Nat)) := by
    rw [zpow_add₀ two_ne_zero, zpow_natCast]
    field_simp
  have hexponent : -1074 ≤ e + (m.log2 - 52 : Nat) := by omega
  have hmantissa : (ExtendedMantissa.ofMantissaAndAccuracy m a >>> (m.log2 - 52)).mantissa
      = m / 2 ^ (m.log2 - 52) := by rw [mantissa_shiftRight, mantissa_ofMantissaAndAccuracy]
  rw [hunits]
  generalize (ExtendedMantissa.ofMantissaAndAccuracy m a >>> (m.log2 - 52)) = em,
    t / 2 ^ (m.log2 - 52) = t', e + (m.log2 - 52 : Nat) = e' at *
  rw [← hmantissa] at hleading
  obtain ⟨hlow, hhigh⟩ := (Nat.log2_eq_iff (ne_zero_of_le_log2 hleading.ge)).1 hleading
  have hkept := mantissa_le_roundedMantissa em
  have hnear : |(em.roundedMantissa : ℚ) - t'| ≤ 1 / 2 := Accurate.roundToNearestEven_near hfirst
  have hplaces : (2 : ℚ) ^ 52 ≤ t' := le_trans (mod_cast hlow) (Accurate.le hfirst)
  generalize em.roundedMantissa = r at *
  have hr : 52 ≤ r.log2 := (Nat.le_log2 (by omega)).2 (hlow.trans hkept.1)
  rw [shiftToTargetExponent_eq (by omega)]
  dsimp only
  rw [mantissa_shiftRight, mantissa_ofMantissaAndAccuracy]
  -- rounding up may have given one place more, which is then a zero
  have hcarry : 2 ^ (r.log2 - 52) ∣ r := by
    have hbound : r ≤ 2 ^ 53 := by omega
    rcases hbound.lt_or_eq with hlt | rfl
    · have hlog : r.log2 < 53 := (Nat.log2_lt (by omega)).2 hlt
      have hnone : r.log2 - 52 = 0 := by omega
      rw [hnone, pow_zero]
      exact one_dvd r
    · rw [Nat.log2_two_pow]
      exact pow_dvd_pow 2 (by decide)
  have hsame := scaled_div hcarry e'
  have hlength := log2_leading hr
  rw [dif_neg (ne_zero_of_le_log2 hlength.ge)]
  refine .finite _ hlength (by omega) ?_
  intro n d hn
  rw [hsame]
  exact nearest_of_units hnear hplaces e' hn d

/-- A number that is given more places first is rounded to a nearest double too. -/
theorem nearest_round {e : Int} (hm : 0 < m) (he : -1022 ≤ m.log2 + e) :
    Nearest (scaled m e) (UnpackedFloat.round .binary64 .positive m e) := by
  have hshift : (e - (m.log2 + e - 52)).toNat = 52 - m.log2 := by omega
  rw [UnpackedFloat.round, targetExponent_eq he, decreaseExponent, hshift,
    ← scaled_shiftLeft m (52 - m.log2) e]
  have hlength := log2_shiftLeft hm (52 - m.log2)
  exact nearest_roundWithAccuracy (by omega) (by omega) rfl

/-! ## Division -/

theorem accurate_div (n : Nat) {d : Nat} (hd : 0 < d) :
    Accurate (n / d) (n / d : ℚ) (accuracyOfFraction (n % d) d) := by
  have hd' : (0 : ℚ) < d := mod_cast hd
  have hquotient : (n : ℚ) / d = (n / d : Nat) + (n % d : Nat) / d := by
    rw [eq_comm, ← mul_right_inj' hd'.ne', mul_add, mul_div_cancel₀ _ hd'.ne',
      mul_div_cancel₀ _ hd'.ne']
    exact_mod_cast Nat.div_add_mod n d
  have hless : ((n % d : Nat) : ℚ) / d < 1 := by
    rw [div_lt_one hd']
    exact_mod_cast Nat.mod_lt n hd
  rw [hquotient]
  generalize n % d = r at hless
  unfold accuracyOfFraction
  split
  · next hzero =>
    rw [hzero, Nat.cast_zero, zero_div, add_zero]
    rfl
  · next hzero =>
    have hpos : (0 : ℚ) < r / d := div_pos (mod_cast Nat.pos_of_ne_zero hzero) hd'
    cases hhalf : compare (2 * r) d with
    | lt =>
        have hlt : (2 * r : ℚ) < d := mod_cast Nat.compare_eq_lt.1 hhalf
        have hbelow : (r : ℚ) / d < 1 / 2 := by
          rw [div_lt_div_iff₀ hd' two_pos]
          linarith only [hlt]
        constructor <;> linarith only [hpos, hbelow]
    | eq =>
        have heq : (2 * r : ℚ) = d := mod_cast Nat.compare_eq_eq.1 hhalf
        have hequal : (r : ℚ) / d = 1 / 2 := by
          rw [div_eq_div_iff hd'.ne' two_ne_zero]
          linarith only [heq]
        rw [hequal]
        rfl
    | gt =>
        have hgt : (d : ℚ) < 2 * r := mod_cast Nat.compare_eq_gt.1 hhalf
        have habove : 1 / 2 < (r : ℚ) / d := by
          rw [div_lt_div_iff₀ two_pos hd']
          linarith only [hgt]
        constructor <;> linarith only [hless, habove]

/-- How many places a quotient has at least. -/
theorem log2_quotient {n d : Nat} (hd : 0 < d) (h : d.log2 < n.log2) :
    n.log2 - d.log2 - 1 ≤ (n / d).log2 := by
  have hn : n ≠ 0 := by
    rintro rfl
    exact absurd h (by rw [Nat.log2_zero]; exact Nat.not_lt_zero _)
  have hpower : 2 ^ (n.log2 - d.log2 - 1) ≤ n / d := by
    rw [Nat.le_div_iff_mul_le hd]
    calc 2 ^ (n.log2 - d.log2 - 1) * d ≤ 2 ^ (n.log2 - d.log2 - 1) * 2 ^ (d.log2 + 1) :=
          Nat.mul_le_mul_left _ Nat.lt_log2_self.le
      _ = 2 ^ n.log2 := by
          rw [← Nat.pow_add, Nat.sub_sub, Nat.sub_add_cancel h]
      _ ≤ n := Nat.log2_self_le hn
  exact (Nat.le_log2 ((Nat.two_pow_pos _).trans_le hpower).ne').2 hpower

/-- **Division.**  A quotient that is not tiny is a nearest double to the exact one. -/
theorem nearest_div {m₁ m₂ : Nat} {e₁ e₂ : Int} (h₁ : 0 < m₁) (h₂ : 0 < m₂)
    (he : -1021 ≤ m₁.log2 + e₁ - (m₂.log2 + e₂)) :
    Nearest (scaled m₁ e₁ / scaled m₂ e₂)
      (UnpackedFloat.div .binary64 (.finite .positive m₁ e₁ h₁) (.finite .positive m₂ e₂ h₂)) := by
  have hdiv : UnpackedFloat.div .binary64 (.finite .positive m₁ e₁ h₁) (.finite .positive m₂ e₂ h₂)
      = roundWithAccuracy .binary64 .positive (divCore .binary64 m₁ e₁ m₂ e₂).1
          (divCore .binary64 m₁ e₁ m₂ e₂).2.1 (divCore .binary64 m₁ e₁ m₂ e₂).2.2 := rfl
  have hexponent : (divCore .binary64 m₁ e₁ m₂ e₂).2.1
      = min (e₁ - e₂) (m₁.log2 + e₁ - (m₂.log2 + e₂) - 53) := by
    unfold divCore
    simp only [Format.targetExponent, totalExponent, Format.mantissaBits, Format.minExponent]
    omega
  have hcore : divCore .binary64 m₁ e₁ m₂ e₂
      = ((m₁ <<< (e₁ - e₂ - (divCore .binary64 m₁ e₁ m₂ e₂).2.1).toNat) / m₂,
        (divCore .binary64 m₁ e₁ m₂ e₂).2.1,
        accuracyOfFraction
          ((m₁ <<< (e₁ - e₂ - (divCore .binary64 m₁ e₁ m₂ e₂).2.1).toNat) % m₂) m₂) := rfl
  rw [hdiv, hcore]
  dsimp only
  generalize (divCore .binary64 m₁ e₁ m₂ e₂).2.1 = e at hexponent ⊢
  obtain ⟨k, hk⟩ : ∃ k : Nat, e₁ - e₂ - e = k := ⟨(e₁ - e₂ - e).toNat, by omega⟩
  rw [hk, Int.toNat_natCast]
  have hquotient : scaled m₁ e₁ / scaled m₂ e₂ = ((m₁ <<< k : Nat) : ℚ) / m₂ * 2 ^ e := by
    have he₁ : e₁ = k + e + e₂ := by omega
    rw [he₁, scaled, scaled, Nat.shiftLeft_eq, zpow_add₀ two_ne_zero, zpow_add₀ two_ne_zero,
      zpow_natCast]
    push_cast
    field_simp
  have hshifted := log2_shiftLeft h₁ k
  have hlength := log2_quotient (n := m₁ <<< k) h₂ (by omega)
  rw [hquotient]
  exact nearest_roundWithAccuracy (by omega) (by omega) (accurate_div _ h₂)

/-! ## Exact results -/

/-- What has so few places is rounded to itself. -/
theorem Nearest.exact {n : Nat} {d : Int} {u : UnpackedFloat} (h : Nearest (scaled n d) u)
    (hn : n < 2 ^ 53) : ∃ m e pos, u = .finite .positive m e pos ∧ scaled m e = scaled n d := by
  cases h with
  | @finite m e pos places exponent nearest =>
      have hself := nearest n d hn
      rw [sub_self, abs_zero] at hself
      exact ⟨m, e, pos, rfl, sub_eq_zero.1 (abs_nonpos_iff.1 hself)⟩

end Planwright.Double
