import Planwright.Proofs.Double.Places
import Planwright.Template.Filter
import Planwright.Transform

set_option autoImplicit false

/-!
# Amounts and grouped numbers

A finite number presented as an amount or with its digits grouped shows its sign, the whole part in
groups of three digits, and two places (`Shows`).  Without the dollar sign and the commas that is
the text of its size with two places behind its sign, and reading a number out of the presented text
gives the double nearest to what this text says (`amount_reads_back`).
-/

namespace Planwright.Filter

open Double (value IsNearest)

/-- The sign that is written before a number. -/
def signText (q : ℚ) : List Char := if q < 0 then ['-'] else []

/-- A text that shows a double as so many hundredths: the sign, a mark, the whole part in groups of
digits, and two places. -/
structure Shows (x : Float) (mark : List Char) (h : Nat) (text : List Char) : Prop where
  near : |(|value x| - h / 100)| ≤ 1 / 200
  fixed : Double.fixed x.abs = Nat.toDigits 10 (h / 100) ++ '.' :: Double.twoDigits (h % 100)
  grouped : ∃ groups, Double.Grouped groups ∧ groups.flatten = Nat.toDigits 10 (h / 100) ∧
    text = signText (value x) ++ mark ++ [','].intercalate groups
      ++ '.' :: Double.twoDigits (h % 100)
  plain : text.filter (fun c => c != '$' && c != ',') = signText (value x) ++ Double.fixed x.abs

/-- A rational number with the sign of another one. -/
def withSign (q r : ℚ) : ℚ := if q < 0 then -r else r

/-- Two texts, with and without a dollar sign, that show a double as so many hundredths, and out of
both of which the same number `y` is read. -/
structure ReadsBack (x : Float) (places : Option Nat) (h : Nat) (y : Float)
    (amount number : String) : Prop where
  shows_amount : Shows x ['$'] h amount.toList
  shows_number : Shows x [] h number.toList
  /-- `y` is what the text with two places denotes -/
  denotes : Double.readFloat (signText (value x) ++ Double.fixed x.abs) = some y
  nearest : IsNearest (withSign (value x) (h / 100)) y
  close : |value y - value x| ≤ 1 / 100
  parsed_amount : Transform.parseNumber.apply (.text amount) places = .ok (.number (.real y))
  parsed_number : Transform.parseNumber.apply (.text number) places = .ok (.number (.real y))

/-! ## The presented text -/

variable {x : Float} {h : Nat}

theorem sign_eq_signText (hx : x.isFinite = true) : sign x = signText (value x) := by
  rw [sign, signText]
  exact if_congr (Double.isBelowZero_iff hx) rfl rfl

theorem point_notMem_digits (n : Nat) : '.' ∉ Nat.toDigits 10 n := fun hmem =>
  absurd (Double.allDigits_toDigits n '.' hmem) (by decide)

/-- The whole part is what stands before the point. -/
theorem groupedSize_eq (hsize : Double.fixedSize x = Double.fixedOf h) :
    groupedSize x
      = Double.groupDigits (Nat.toDigits 10 (h / 100)) ++ '.' :: Double.twoDigits (h % 100) := by
  rw [groupedSize, hsize, Double.fixedOf, Text.cutAt_append (point_notMem_digits (h / 100))]

/-! ## What is left without the decoration -/

theorem exists_digitChar {c : Char} (hc : Double.isDigit c = true) :
    ∃ k < 10, c = Nat.digitChar k := by
  rw [Double.isDigit_eq, Char.isDigit, Bool.and_eq_true, decide_eq_true_eq, decide_eq_true_eq] at hc
  obtain ⟨hlow, hhigh⟩ : 48 ≤ c.toNat ∧ c.toNat ≤ 57 := hc
  have hk : c.toNat - 48 < 10 := by omega
  refine ⟨c.toNat - 48, hk, Char.toNat_inj.1 ?_⟩
  rw [Nat.toNat_digitChar_of_lt_ten hk]
  omega

/-- The characters of a number without decoration. -/
structure KeepsNumbers (keep : Char → Bool) : Prop where
  digit : ∀ k < 10, keep (Nat.digitChar k) = true
  point : keep '.' = true
  minus : keep '-' = true
  comma : keep ',' = false
  dollar : keep '$' = false

theorem KeepsNumbers.filter_digits {keep : Char → Bool} (hkeep : KeepsNumbers keep) {ds : List Char}
    (hds : Double.AllDigits ds) : ds.filter keep = ds := by
  rw [List.filter_eq_self]
  intro c hc
  obtain ⟨k, hk, rfl⟩ := exists_digitChar (hds c hc)
  exact hkeep.digit k hk

theorem KeepsNumbers.filter_signText {keep : Char → Bool} (hkeep : KeepsNumbers keep) (q : ℚ) :
    (signText q).filter keep = signText q := by
  rw [signText]
  split
  · rw [List.filter_cons_of_pos hkeep.minus, List.filter_nil]
  · rfl

/-- Dropping the decoration leaves the sign and the text with two places. -/
theorem KeepsNumbers.filter_shown {keep : Char → Bool} (hkeep : KeepsNumbers keep) (q : ℚ)
    {mark : List Char} (hmark : mark.filter keep = []) (h : Nat) :
    (signText q ++ mark ++ (Double.groupDigits (Nat.toDigits 10 (h / 100))
      ++ '.' :: Double.twoDigits (h % 100))).filter keep = signText q ++ Double.fixedOf h := by
  rw [List.filter_append, List.filter_append, List.filter_append, hkeep.filter_signText, hmark,
    Double.filter_groupDigits hkeep.comma, hkeep.filter_digits (Double.allDigits_toDigits _),
    List.filter_cons_of_pos hkeep.point, hkeep.filter_digits (Double.allDigits_twoDigits _),
    List.append_nil, Double.fixedOf]

theorem keepsNumbers_plain : KeepsNumbers fun c => c != '$' && c != ',' :=
  ⟨by decide, rfl, rfl, rfl, rfl⟩

theorem keepsNumbers_undecorated : KeepsNumbers fun c => c != '$' && c != ',' && !Text.isBlank c :=
  ⟨by decide, rfl, rfl, rfl, rfl⟩

/-- The text of both filters shows the number. -/
theorem shows_of_fixed (hx : x.isFinite = true) (hsize : Double.fixedSize x = Double.fixedOf h)
    (hfixed : Double.fixed x.abs = Double.fixedOf h) (hnear : |(|value x| - h / 100)| ≤ 1 / 200)
    {mark : List Char} (hmark : mark.filter (fun c => c != '$' && c != ',') = []) :
    Shows x mark h (sign x ++ mark ++ groupedSize x) := by
  obtain ⟨groups, hgrouped, hflatten, hgroups⟩ :=
    Double.exists_groups (Nat.toDigits_ne_nil (n := h / 100) (b := 10))
  refine ⟨hnear, hfixed, ⟨groups, hgrouped, hflatten, ?_⟩, ?_⟩
  · rw [sign_eq_signText hx, groupedSize_eq hsize, hgroups,
      List.append_assoc _ (List.intercalate _ _)]
  · rw [sign_eq_signText hx, groupedSize_eq hsize, keepsNumbers_plain.filter_shown _ hmark, hfixed]

/-! ## Reading the text back -/

/-- The two places behind a sign are read as a nearest double. -/
theorem exists_read (hx : x.isFinite = true) (hnear : |(|value x| - h / 100)| ≤ 1 / 200) :
    ∃ y, Double.readFloat (signText (value x) ++ Double.fixedOf h) = some y ∧
      IsNearest (withSign (value x) (h / 100)) y := by
  have hnearest := Double.isNearest_nearest hx (hnear.trans (by norm_num))
  rw [signText, withSign]
  split
  · exact ⟨_, (Double.readFloat_fixedOf h).2, hnearest.neg⟩
  · exact ⟨_, (Double.readFloat_fixedOf h).1, hnearest⟩

/-- Rounding keeps the sign, so a nearest double to what is shown is as near as two places allow. -/
theorem near_of_read {y : Float} (hx : x.isFinite = true)
    (hnear : |(|value x| - h / 100)| ≤ 1 / 200) (hy : IsNearest (withSign (value x) (h / 100)) y) :
    |value y - value x| ≤ 1 / 100 := by
  have hself : |value x - withSign (value x) (h / 100)| ≤ 1 / 200 := by
    rw [withSign]
    split
    · next hneg =>
      rw [abs_of_neg hneg] at hnear
      rwa [sub_neg_eq_add, ← abs_neg, neg_add, ← sub_eq_add_neg]
    · next hpos => rwa [abs_of_nonneg (not_lt.1 hpos)] at hnear
  have hread := hy.le x hx
  have htriangle := abs_sub_le (value y) (withSign (value x) (h / 100)) (value x)
  rw [abs_sub_comm (withSign _ _) (value x)] at htriangle
  linarith only [hself, hread, htriangle]

/-- A number is read out of a text if what is left of it without decoration denotes a finite one. -/
theorem parseNumber_apply_text {s : String} {y : Float} (places : Option Nat)
    (hread : Double.readFloat (Transform.undecorated s.toList) = some y) (hy : y.isFinite = true) :
    Transform.parseNumber.apply (.text s) places = .ok (.number (.real y)) := by
  rw [Transform.apply, Transform.readNumber, hread]
  dsimp only
  rw [if_pos hy, Except.map, Value.ofFloat, if_pos hy]

theorem toList_apply {v : Value} (hv : v.toFloat? = some x) :
    (Filter.currency.apply v).toList = sign x ++ ['$'] ++ groupedSize x ∧
      (Filter.number.apply v).toList = sign x ++ [] ++ groupedSize x := by
  rw [Filter.apply, Filter.apply, numeric, numeric, hv]
  simp only [String.toList_ofList, currencyText, numberText, List.append_assoc, List.cons_append,
    List.nil_append, and_self]

/-- **Amounts.**  A finite number that is presented as an amount or grouped shows its hundredths,
and reading a number out of the text gives the double nearest to them, with the sign. -/
theorem amount_reads_back {v : Value} {x : Float} (hv : v.toFloat? = some x)
    (hx : x.isFinite = true) (places : Option Nat) :
    ∃ h y, ReadsBack x places h y (Filter.currency.apply v) (Filter.number.apply v) := by
  obtain ⟨h, hsize, hfixed, hnear⟩ := Double.exists_hundredths hx
  obtain ⟨y, hread, hnearest⟩ := exists_read hx hnear
  obtain ⟨hcurrency, hnumber⟩ := toList_apply hv
  have hundecorated {mark text : List Char} (hmark : Transform.undecorated mark = [])
      (htext : text = sign x ++ mark ++ groupedSize x) :
      Double.readFloat (Transform.undecorated text) = some y := by
    rw [htext, sign_eq_signText hx, groupedSize_eq hsize, Transform.undecorated,
      keepsNumbers_undecorated.filter_shown _ hmark, hread]
  refine ⟨h, y, ?shows_amount, ?shows_number, ?denotes, hnearest, near_of_read hx hnear hnearest,
    ?parsed_amount, ?parsed_number⟩
  case shows_amount =>
    rw [hcurrency]
    exact shows_of_fixed hx hsize hfixed hnear rfl
  case shows_number =>
    rw [hnumber]
    exact shows_of_fixed hx hsize hfixed hnear rfl
  case denotes => rw [hfixed, hread]
  case parsed_amount =>
    exact parseNumber_apply_text places (hundecorated rfl hcurrency) hnearest.finite
  case parsed_number =>
    exact parseNumber_apply_text places (hundecorated rfl hnumber) hnearest.finite

/-- A half of a hundredth below zero goes to the even hundredth. -/
theorem amount_reads_back_half :
    (Value.number (.real (-65000.125))).toFloat? = some (-65000.125) ∧
      (-65000.125 : Float).isFinite = true ∧
      ∃ h y, ReadsBack (-65000.125) none h y "-$65,000.12" "-65,000.12" := by
  have hv : (Value.number (.real (-65000.125))).toFloat? = some (-65000.125) := rfl
  have hx : (-65000.125 : Float).isFinite = true := by decide
  have hamount : Filter.currency.apply (.number (.real (-65000.125))) = "-$65,000.12" := by
    decide +kernel
  have hnumber : Filter.number.apply (.number (.real (-65000.125))) = "-65,000.12" := by
    decide +kernel
  have hreads := amount_reads_back hv hx none
  rw [hamount, hnumber] at hreads
  exact ⟨hv, hx, hreads⟩

end Planwright.Filter
