import Planwright.Proofs.Fallible
import Planwright.Proofs.Provider.Scoring
import Planwright.Proofs.Value.Fields

set_option autoImplicit false

/-!
# Costs that are read

However a cost is written, what is read of it has the bounds of its type (`Cost.fits_of_ofValue`):
digits that do not fit are rounded off or refused, and so are places.  So the manifests that are
read have costs that fit (`Manifest.fits_of_ofValue`).
-/

namespace Planwright

open Fallible

namespace Cost

theorem fits_zero : zero.Fits := ⟨by decide, by decide⟩

/-! ## Texts -/

/-- The bounds while a cost is read. -/
structure Reading.Fits (r : Reading) : Prop where
  mantissa : r.mantissa < bound
  scale : r.scale ≤ maxScale

theorem Reading.Fits.readDigits {r r' : Reading} {s : List Char} (hr : r.Fits)
    (h : Cost.readDigits r s = some r') : r'.Fits := by
  fun_induction Cost.readDigits r s with
  | case1 r _ => exact Option.some.inj h ▸ hr
  | case3 r rest _ ih => exact ih hr h
  | case6 r rest _ ih => exact ih ⟨hr.mantissa, hr.scale⟩ h
  | case9 r _ _ _ _ _ _ _ _ _ m hm =>
      obtain rfl := Option.some.inj h
      exact ⟨hm, hr.scale⟩
  | case11 r _ _ _ _ d _ _ _ _ m hm _ =>
      obtain rfl := Option.some.inj h
      have hround : m ≤ r.mantissa + 1 := by
        unfold m
        split <;> omega
      have hmantissa := hr.mantissa
      have hscale := hr.scale
      have hbound : 4 < bound := by decide
      exact ⟨by dsimp only; omega, by dsimp only; omega⟩
  | case12 r _ _ _ _ d _ m hfits ih =>
      rw [not_or, not_and, not_le, not_le] at hfits
      refine ih ⟨hfits.1, ?_⟩ h
      dsimp only
      split
      · next hpoint => exact hfits.2 hpoint
      · exact Nat.zero_le _
  | _ => cases h

theorem fits_readPlain {s : List Char} {c : Cost} (h : readPlain s = some c) : c.Fits := by
  have hread (negative : Bool) (s : List Char)
      (h : (readDigits ⟨0, 0, false, false⟩ s).map (fun r => signed negative r.mantissa r.scale)
        = some c) : c.Fits := by
    obtain ⟨r, hr, rfl⟩ := Option.map_eq_some_iff.1 h
    have hopening : Reading.Fits ⟨0, 0, false, false⟩ := ⟨by decide, by decide⟩
    obtain ⟨hmantissa, hscale⟩ := hopening.readDigits hr
    exact ⟨hmantissa, hscale⟩
  unfold readPlain at h
  dsimp only at h
  split at h
  · exact hread true _ h
  · exact hread false _ h
  · exact hread false _ h

theorem Fits.movePoint {c d : Cost} (hc : c.Fits) {places : Int}
    (h : c.movePoint places = some d) : d.Fits := by
  unfold Cost.movePoint at h
  dsimp only at h
  split at h
  · split at h
    · next hfits =>
      obtain rfl := Option.some.inj h
      exact ⟨hfits, Nat.zero_le _⟩
    · cases h
  · split at h
    · next hfits =>
      obtain rfl := Option.some.inj h
      exact ⟨hc.mantissa, by dsimp only; omega⟩
    · cases h

theorem fits_read? {s : List Char} {c : Cost} (h : read? s = some c) : c.Fits := by
  unfold read? at h
  split at h
  · exact fits_readPlain h
  · obtain ⟨d, hd, h⟩ := Option.bind_eq_some_iff.1 h
    obtain ⟨places, -, h⟩ := Option.bind_eq_some_iff.1 h
    split at h
    · exact (fits_readPlain hd).movePoint h
    · cases h

/-! ## Doubles -/

theorem halve_bounds {s : Scaled} (hs : s.mantissa < bound) (n : Nat) :
    (halve n s).mantissa < bound ∧ s.exponent ≤ (halve n s).exponent := by
  induction n generalizing s with
  | zero => exact ⟨hs, le_rfl⟩
  | succ n ih =>
      have hhalf : s.mantissa / 2 < bound := (Nat.div_le_self _ _).trans_lt hs
      have hhalved := @ih ⟨s.mantissa / 2, s.exponent + 1⟩ hhalf
      rw [halve]
      split
      · exact ⟨hhalved.1, (Int.lt_succ _).le.trans hhalved.2⟩
      · split
        · next hroom => exact ih hroom
        · exact ⟨hhalved.1, (Int.lt_succ _).le.trans hhalved.2⟩

theorem double_bounds {s : Scaled} (hs : s.mantissa < bound) (n : Nat) :
    (double n s).mantissa < bound ∧ s.exponent ≤ (double n s).exponent + n := by
  induction n generalizing s with
  | zero => exact ⟨hs, by rw [double]; omega⟩
  | succ n ih =>
      rw [double]
      split
      · next hroom =>
        have hdouble : s.mantissa * 2 < bound := by
          unfold bound
          omega
        obtain ⟨hmantissa, hexponent⟩ := @ih ⟨s.mantissa * 2, s.exponent - 1⟩ hdouble
        exact ⟨hmantissa, by dsimp only at hexponent; omega⟩
      · have hfifth : s.mantissa / 5 < bound := (Nat.div_le_self _ _).trans_lt hs
        obtain ⟨hmantissa, hexponent⟩ := @ih ⟨s.mantissa / 5, s.exponent⟩ hfifth
        exact ⟨hmantissa, by dsimp only at hexponent; omega⟩

/-- Dropping a digit keeps the bound. -/
theorem mantissa_shortened {s : Scaled} (hs : s.mantissa < bound) :
    s.shortened.mantissa < bound := by
  have hbound : 1 < bound := by decide
  unfold Scaled.shortened
  dsimp only
  split <;> omega

/-- With enough fuel no more than the greatest number of places is left. -/
theorem dropPlaces_bounds {s : Scaled} (hs : s.mantissa < bound) {fuel : Nat}
    (hfuel : -(maxScale : Int) ≤ s.exponent + fuel) :
    (dropPlaces fuel s).mantissa < bound ∧ -(maxScale : Int) ≤ (dropPlaces fuel s).exponent := by
  induction fuel generalizing s with
  | zero => exact ⟨hs, by rw [dropPlaces]; omega⟩
  | succ fuel ih =>
      rw [dropPlaces]
      split
      · split
        · exact ⟨by decide, by decide⟩
        · have hshorter : s.shortened.exponent = s.exponent + 1 := rfl
          exact ih (mantissa_shortened hs) (by omega)
      · next hfew => exact ⟨hs, not_lt.1 hfew⟩

theorem dropExcess_bounds {s : Scaled} (hs : s.mantissa < bound) (fuel : Nat) :
    (dropExcess fuel s).mantissa < bound ∧ s.exponent ≤ (dropExcess fuel s).exponent := by
  induction fuel generalizing s with
  | zero => exact ⟨hs, le_rfl⟩
  | succ fuel ih =>
      rw [dropExcess]
      split
      · have hshorter : s.shortened.exponent = s.exponent + 1 := rfl
        obtain ⟨hmantissa, hexponent⟩ := ih (mantissa_shortened hs)
        exact ⟨hmantissa, by omega⟩
      · exact ⟨hs, le_rfl⟩

theorem dropZeros_bounds {s : Scaled} (hs : s.mantissa < bound) (fuel : Nat) :
    (dropZeros fuel s).mantissa < bound ∧ s.exponent ≤ (dropZeros fuel s).exponent := by
  induction fuel generalizing s with
  | zero => exact ⟨hs, le_rfl⟩
  | succ fuel ih =>
      rw [dropZeros]
      split
      · have htenth : s.mantissa / 10 < bound := (Nat.div_le_self _ _).trans_lt hs
        obtain ⟨hmantissa, hexponent⟩ := @ih ⟨s.mantissa / 10, s.exponent + 1⟩ htenth
        exact ⟨hmantissa, (Int.lt_succ _).le.trans hexponent⟩
      · exact ⟨hs, le_rfl⟩

theorem fits_ofFloat? {x : Float} {c : Cost} (h : ofFloat? x = some c) : c.Fits := by
  unfold ofFloat? at h
  split at h
  · next negative m e hparts =>
    obtain ⟨hm, he⟩ := Double.bounds_of_parts hparts
    have hmantissa : m < bound := hm.trans (by decide)
    split at h
    · obtain rfl := Option.some.inj h
      exact ⟨fits_zero.mantissa, fits_zero.scale⟩
    · extract_lets s whole rounded at h
      have hs : s.mantissa < bound ∧ -1074 ≤ s.exponent := by
        unfold s
        split
        · obtain ⟨hbound, hexponent⟩ := @halve_bounds ⟨m, e⟩ hmantissa e.natAbs
          exact ⟨hbound, he.trans hexponent⟩
        · obtain ⟨hbound, hexponent⟩ := @double_bounds ⟨m, e⟩ hmantissa e.toNat
          exact ⟨hbound, by dsimp only at hexponent; omega⟩
      split at h
      · split at h
        · next hfits =>
          obtain rfl := Option.some.inj h
          exact ⟨hfits, Nat.zero_le _⟩
        · cases h
      · obtain rfl := Option.some.inj h
        have hfuel : -(maxScale : Int) ≤ s.exponent + 1200 := by
          unfold maxScale
          omega
        obtain ⟨hplaces, hscale⟩ := dropPlaces_bounds hs.1 hfuel
        obtain ⟨hexcess, hscale'⟩ := dropExcess_bounds hplaces 30
        obtain ⟨hzeros, hscale''⟩ := dropZeros_bounds hexcess 30
        have hrounded : -(maxScale : Int) ≤ rounded.exponent :=
          hscale.trans (hscale'.trans hscale'')
        exact ⟨hzeros, by dsimp only; omega⟩
  · cases h

theorem fits_of_ofValue {v : Value} {c : Cost} (h : ofValue v = .ok c) : c.Fits := by
  unfold ofValue at h
  split at h
  · exact Except.ok.inj h ▸ fits_zero
  · split at h
    · next hread => exact Except.ok.inj h ▸ fits_ofFloat? hread
    · cases h
  · split at h
    · next hread => exact Except.ok.inj h ▸ fits_read? hread
    · cases h
  · cases h

end Cost

/-- The manifests that are read have costs that fit. -/
theorem Manifest.fits_of_ofValue {v : Value} {m : Manifest} (h : Manifest.ofValue v = .ok m) :
    m.cost.Fits := by
  unfold Manifest.ofValue at h
  obtain ⟨fields, -, h⟩ := bind_eq_ok.1 h
  obtain ⟨auth, -, h⟩ := bind_eq_ok.1 h
  obtain ⟨baseAddress, -, h⟩ := bind_eq_ok.1 h
  obtain ⟨categories, -, h⟩ := bind_eq_ok.1 h
  obtain ⟨cost, hcost, h⟩ := bind_eq_ok.1 h
  obtain ⟨endpoints, -, h⟩ := bind_eq_ok.1 h
  obtain ⟨rateLimit, -, h⟩ := bind_eq_ok.1 h
  obtain ⟨reliability, -, h⟩ := bind_eq_ok.1 h
  obtain ⟨timeoutMs, -, h⟩ := bind_eq_ok.1 h
  obtain ⟨baseAddress, -, h⟩ := bind_eq_ok.1 h
  obtain rfl := Except.ok.inj h
  cases cost with
  | none => exact Cost.fits_zero
  | some c =>
      obtain ⟨v, -, hread⟩ := Dict.field?_eq_ok_some hcost
      exact Cost.fits_of_ofValue hread

end Planwright
