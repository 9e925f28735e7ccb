import Planwright.Proofs.Double.Finite
import Planwright.Provider.Entry

set_option autoImplicit false

/-!
# Scores are numbers

A score is a sum of products and quotients of doubles, so it could be "not a number".  For a
provider whose manifest has passed its checks it never is (`ProviderEntry.Sound.isNaN_score`),
whatever the settings and the instant.  The trust is a share, the cost has a bounded number of
digits, and the counters have 64 bits, so four of the five parts are finite; and the last one is ten
unless it is less than ten.
-/

namespace Planwright

open Double

/-! ## Costs -/

/-- The bounds of a cost: a mantissa of 96 bits and at most 28 places. -/
structure Cost.Fits (c : Cost) : Prop where
  mantissa : c.mantissa < bound
  scale : c.scale ≤ maxScale

theorem Cost.Fits.within_toFloat {c : Cost} (h : c.Fits) : Within 200 c.toFloat := by
  have hmantissa : c.mantissa < 2 ^ 96 := h.mantissa
  have hunit : 0 < Nat.pow 10 c.scale := Nat.pow_pos (by decide)
  have hunit' : Nat.pow 10 c.scale < 2 ^ 94 :=
    (Nat.pow_le_pow_right (by decide) h.scale).trans_lt (by decide)
  have hone : AtLeast 1 (Float.ofNat (Nat.pow 10 c.scale)) :=
    atLeast_ofNat hunit isNormal_one zero_le_one (mod_cast hunit)
  have hdivisor : Within 97 (Float.ofNat (Nat.pow 10 c.scale)) := within_ofNat hunit' (by decide)
  have hwhole : Within 99 (Float.ofNat (c.mantissa / Nat.pow 10 c.scale)) :=
    within_ofNat ((Nat.div_le_self _ _).trans_lt hmantissa) (by decide)
  have hplaces : Within 97 (Float.ofNat (c.mantissa % Nat.pow 10 c.scale)) :=
    within_ofNat ((Nat.mod_lt _ hunit).trans hunit') (by decide)
  unfold toFloat
  extract_lets unit whole fraction size
  have hsize : Within 200 size := by
    unfold size
    split
    · have hcount : Within 99 (Float.ofNat c.mantissa) := within_ofNat hmantissa (by decide)
      exact hcount.mono (by decide)
    · split
      · exact hwhole.mono (by decide)
      · have hfraction : Within 98 fraction := hplaces.div hone (by decide)
        have hsum : Within 101 (whole + fraction) :=
          hwhole.add (hfraction.mono (by decide)) (by decide)
        have hproduct : Within 199 ((whole + fraction) * Float.ofNat unit) :=
          hsum.mul hdivisor (by decide)
        exact (hproduct.nearestWhole (by decide) (by decide)).div hone (by decide)
  split
  · exact hsize.neg (by decide)
  · exact hsize

namespace ProviderEntry

/-! ## The parts of a score -/

theorem within_ten : Within 4 10.0 :=
  within_of_unpack (m := 0x14000000000000) (e := -49) (by decide) rfl (by norm_num [scaled])

theorem within_twenty : Within 5 20.0 :=
  within_of_unpack (m := 0x14000000000000) (e := -48) (by decide) rfl (by norm_num [scaled])

theorem within_forty : Within 6 40.0 :=
  within_of_unpack (m := 0x14000000000000) (e := -47) (by decide) rfl (by norm_num [scaled])

/-- The points for being cheap. -/
theorem within_costScore (config : SelectorConfig) {cost : Float} {k : Nat} (hlow : 0.0 ≤ cost)
    (hcost : Within k cost) : Within 62 (costScore config cost) := by
  have hone : Within 54 1.0 := (within_of_share (by decide) (by decide)).mono (by decide)
  unfold costScore
  extract_lets ceiling
  split
  · next hpositive =>
    have hceiling : ceiling.isNaN = false := (isNaN_of_lt hpositive).2
    have hratio : Within 54 ((if ceiling < cost then ceiling else cost) / ceiling) := by
      split
      · next hlt =>
        have hlow' : 0.0 ≤ ceiling := Double.le_of_lt hpositive
        have hlimited : Within 1024 ceiling := within_of_le hlow' (Double.le_of_lt hlt) hcost
        exact within_ratio hlow' hlimited (Double.le_rfl hceiling) hpositive
      · next hle =>
        exact within_ratio hlow hcost ((le_iff_not_lt hcost.isNaN hceiling).2 hle) hpositive
    exact (within_twenty.mul (hone.sub hratio (by decide)) (by decide)).mono (by decide)
  · split
    · exact within_twenty.mono (by decide)
    · exact within_zero (s := .positive) rfl

/-- The counters of calls have 64 bits. -/
theorem within_successRate {e : ProviderEntry} (h : e.callCount < 2 ^ 64) :
    Within 68 e.successRate := by
  unfold successRate
  split
  · exact (within_of_share (by decide) (by decide)).mono (by decide)
  · next hcalled =>
    have hpos : 0 < e.callCount := Nat.pos_of_ne_zero hcalled
    have hsuccesses : Within 67 (Float.ofNat (e.callCount - e.errorCount)) :=
      within_ofNat ((Nat.sub_le _ _).trans_lt h) (by decide)
    exact hsuccesses.div (atLeast_ofNat hpos isNormal_one zero_le_one (mod_cast hpos)) (by decide)

/-- Minutes count only if they are fewer than ten. -/
theorem isNaN_recencyScore (e : ProviderEntry) (now : Nat) :
    (e.recencyScore now).isNaN = false := by
  unfold recencyScore
  split
  · exact within_ten.isNaN
  · dsimp only
    split
    · next hfewer => exact (isNaN_of_lt hfewer).1
    · exact within_ten.isNaN

/-! ## The whole score -/

/-- What the checks of a manifest and the sizes of its numbers say of a provider. -/
structure Sound (e : ProviderEntry) : Prop where
  reliability : 0.0 ≤ e.manifest.reliability ∧ e.manifest.reliability ≤ 1.0
  cost : e.manifest.cost.Fits
  callCount : e.callCount < 2 ^ 64

/-- **A score is a number**, with any settings and at any instant. -/
theorem Sound.isNaN_score {e : ProviderEntry} (h : e.Sound) (config : SelectorConfig) (now : Nat) :
    (e.score config now).total.isNaN = false := by
  have hreliability : Within 8 (e.manifest.reliability * 40.0) :=
    (within_of_share h.reliability.1 h.reliability.2).mul within_forty (by decide)
  have hcost := h.cost.within_toFloat
  have hzero : Within 200 0.0 := within_zero (s := .positive) rfl
  have hcostScore : Within 62 (e.score config now).cost := by
    unfold score
    extract_lets cost
    dsimp only
    split
    · exact within_costScore config (by decide) hzero
    · next hnot =>
      have hpositive : 0.0 ≤ cost := (le_iff_not_lt (by decide) hcost.isNaN).2 hnot
      exact within_costScore config hpositive hcost
  have hsuccess : Within 74 (e.successRate * 20.0) :=
    (within_successRate h.callCount).mul within_twenty (by decide)
  have havailability : Within 4 (if e.hasRoom now then 10.0 else 0.0) := by
    split
    · exact within_ten
    · exact within_zero (s := .positive) rfl
  have htwo := (hreliability.mono (by decide)).add hcostScore (by decide)
  have hthree := (htwo.mono (by decide)).add hsuccess (by decide)
  have hfour := hthree.add (havailability.mono (by decide)) (by decide)
  exact hfour.isNaN_add (e.isNaN_recencyScore now)

end ProviderEntry

end Planwright
