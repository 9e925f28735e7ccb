import Planwright.Double.Fixed
import Planwright.Proofs.Double.Values
import Planwright.Text.Search

set_option autoImplicit false

/-!
# Two places, written and read

The text of a double with two places is that of the nearest number of hundredths
(`exists_hundredths`), and it is read as the double nearest to them (`readFloat_fixedOf`).  With
commas in its whole part it has the same digits, in groups of three of which only the first may be
shorter (`exists_groups`).
-/

namespace Planwright.Double

/-! ## Hundredths -/

theorem roundDiv_sub_le (num : Nat) {den : Nat} (hden : 0 < den) :
    |(roundDiv num den : ℚ) - num / den| ≤ 1 / 2 := by
  have hpos : (0 : ℚ) < den := mod_cast hden
  obtain ⟨hlow, hhigh⟩ := roundDiv_near num den hden
  have hlow' : (2 * (roundDiv num den * den) : ℚ) ≤ 2 * num + den := mod_cast hlow
  have hhigh' : (2 * num : ℚ) ≤ 2 * (roundDiv num den * den) + den := mod_cast hhigh
  have hscaled : ((roundDiv num den : ℚ) - num / den) * den = roundDiv num den * den - num := by
    rw [sub_mul, div_mul_cancel₀ _ hpos.ne']
  rw [abs_le]
  constructor
  · refine le_of_mul_le_mul_right ?_ hpos
    rw [hscaled]
    linarith only [hhigh']
  · refine le_of_mul_le_mul_right ?_ hpos
    rw [hscaled]
    linarith only [hlow']

/-- Rounding to hundredths is off by half a hundredth at most. -/
theorem hundredths_near (m : Nat) (e : Int) :
    |(hundredths m e : ℚ) / 100 - scaled m e| ≤ 1 / 200 := by
  have hquotient :
      ((m <<< e.toNat * 100 : Nat) : ℚ) / (1 <<< (-e).toNat : Nat) = 100 * scaled m e := by
    rw [Nat.shiftLeft_eq, Nat.shiftLeft_eq, scaled]
    push_cast
    rcases le_total 0 e with he | he
    · obtain ⟨k, rfl⟩ := Int.eq_ofNat_of_zero_le he
      simp
      ring
    · obtain ⟨k, hk⟩ := Int.eq_ofNat_of_zero_le (Int.neg_nonneg.2 he)
      obtain rfl : e = -(k : Int) := by omega
      simp [div_eq_mul_inv]
      ring
  have hunit : 0 < 1 <<< (-e).toNat := Nat.shiftLeft_pos_iff.2 Nat.one_pos
  have hround := roundDiv_sub_le (m <<< e.toNat * 100) hunit
  rw [hquotient] at hround
  have hsplit : (hundredths m e : ℚ) / 100 - scaled m e
      = (hundredths m e - 100 * scaled m e) / 100 := by ring
  have hhundred : |(100 : ℚ)| = 100 := abs_of_pos (by norm_num)
  rw [hsplit, abs_div, hhundred, div_le_iff₀ (by norm_num)]
  exact hround.trans (by norm_num)

/-- The text of a finite double with two places says the nearest number of hundredths. -/
theorem exists_hundredths {x : Float} (hx : x.isFinite = true) :
    ∃ h : Nat, fixedSize x = fixedOf h ∧ fixed x.abs = fixedOf h ∧
      |(|value x| - h / 100)| ≤ 1 / 200 := by
  obtain ⟨m, e, hparts, hvalue⟩ := exists_parts hx
  have hsize : |value x| = scaled m e := by
    rw [hvalue]
    split
    · rw [abs_neg, abs_of_nonneg (scaled_nonneg m e)]
    · exact abs_of_nonneg (scaled_nonneg m e)
  have hmagnitude : (parts x).magnitude = .finite m e := congrArg Parts.magnitude hparts
  refine ⟨hundredths m e, ?_, ?_, ?_⟩
  · rw [fixedSize, hmagnitude]
  · rw [fixed, fixedSize, parts_abs hx, hmagnitude]
    rfl
  · rw [hsize, abs_sub_comm]
    exact hundredths_near m e

/-! ## Reading digits -/

theorem isDigit_eq (c : Char) : isDigit c = c.isDigit := by
  have hrange : ('0' ≤ c ∧ c ≤ '9') ↔ c.isDigit = true := by
    rw [Char.isDigit, Bool.and_eq_true, decide_eq_true_eq, decide_eq_true_eq]
    rfl
  rw [isDigit, digit?, Bool.eq_iff_iff, ← hrange]
  split <;> simp_all

/-- Digits all along. -/
def AllDigits (ds : List Char) : Prop := ∀ c ∈ ds, isDigit c = true

theorem allDigits_toDigits (n : Nat) : AllDigits (Nat.toDigits 10 n) := by
  intro c hc
  rw [isDigit_eq]
  exact Nat.isDigit_of_mem_toDigits (by decide) (by decide) hc

theorem allDigits_twoDigits (n : Nat) : AllDigits (twoDigits n) := by
  have hdigit (k : Nat) : isDigit (Nat.digitChar (k % 10)) = true := by
    rw [isDigit_eq, Nat.isDigit_digitChar]
    exact decide_eq_true (Nat.mod_lt k (by decide))
  intro c hc
  rw [twoDigits, List.mem_cons, List.mem_singleton] at hc
  rcases hc with rfl | rfl
  · exact hdigit _
  · exact hdigit _

theorem takeDigits_of_allDigits {ds : List Char} (h : AllDigits ds) : takeDigits ds = (ds, []) := by
  rw [takeDigits, List.takeWhile_eq_self_iff.2 h, List.dropWhile_eq_nil_iff.2 h]

theorem takeDigits_append {ds : List Char} (h : AllDigits ds) {c : Char} (hc : isDigit c = false)
    (rest : List Char) : takeDigits (ds ++ c :: rest) = (ds, c :: rest) := by
  rw [takeDigits, List.takeWhile_append_of_pos h, List.dropWhile_append_of_pos h,
    List.takeWhile_cons_of_neg (Bool.eq_false_iff.1 hc),
    List.dropWhile_cons_of_neg (Bool.eq_false_iff.1 hc), List.append_nil]

/-- The value of digits that are in basic Latin. -/
theorem digitsValue_eq {ds : List Char} (h : AllDigits ds) :
    digitsValue ds = Nat.ofDigitChars 10 ds 0 := by
  have hdigit : ∀ c ∈ ds, (digit? c).getD 0 = c.toNat - '0'.toNat := by
    intro c hc
    have hc' := h c hc
    rw [isDigit, digit?] at hc'
    rw [digit?]
    split
    · rfl
    · next hrange => rw [if_neg hrange] at hc'; cases hc'
  rw [digitsValue, Nat.ofDigitChars]
  refine List.foldl_ext _ _ _ ?_
  intro n c hc
  rw [hdigit c hc]

/-- The digits of a number of hundredths, with those of its places. -/
theorem digitsValue_hundredths (h : Nat) :
    digitsValue (Nat.toDigits 10 (h / 100) ++ twoDigits (h % 100)) = h := by
  have hdigits : AllDigits (Nat.toDigits 10 (h / 100) ++ twoDigits (h % 100)) := by
    intro c hc
    rw [List.mem_append] at hc
    exact hc.elim (allDigits_toDigits _ c) (allDigits_twoDigits _ c)
  rw [digitsValue_eq hdigits, Nat.ofDigitChars_append, Nat.ofDigitChars_ten_toDigits]
  have hten : (Nat.digitChar (h % 100 / 10 % 10)).toNat - '0'.toNat = h % 100 / 10 % 10 :=
    Nat.toNat_digitChar_sub_48_of_lt_ten (Nat.mod_lt _ (by decide))
  have hone : (Nat.digitChar (h % 100 % 10)).toNat - '0'.toNat = h % 100 % 10 :=
    Nat.toNat_digitChar_sub_48_of_lt_ten (Nat.mod_lt _ (by decide))
  rw [twoDigits, Nat.ofDigitChars, List.foldl_cons, List.foldl_cons, List.foldl_nil, hten, hone]
  omega

/-! ## Reading two places -/

theorem readUnsigned_fixedOf (h : Nat) : readUnsigned (fixedOf h) = some (nearest h (-2)) := by
  have hwhole :=
    takeDigits_append (allDigits_toDigits (h / 100)) (c := '.') rfl (twoDigits (h % 100))
  have hplaces := takeDigits_of_allDigits (allDigits_twoDigits (h % 100))
  have hne : (Nat.toDigits 10 (h / 100)).isEmpty = false :=
    List.isEmpty_eq_false_iff.2 Nat.toDigits_ne_nil
  rw [readUnsigned, fixedOf, hwhole]
  simp only [hplaces, hne, Bool.false_and, Bool.false_eq_true, if_false, digitsValue_hundredths]
  rfl

/-- A text with a point is none of the words for a double. -/
theorem isWord_of_mem {word : String} {s : List Char} (hs : '.' ∈ s) (hword : '.' ∉ word.toList) :
    isWord word s = false := by
  rw [isWord, beq_eq_false_iff_ne]
  intro heq
  refine hword (heq ▸ List.mem_map.2 ⟨'.', hs, ?_⟩)
  decide

theorem readMagnitude_fixedOf (h : Nat) : readMagnitude (fixedOf h) = some (nearest h (-2)) := by
  have hpoint : '.' ∈ fixedOf h := by simp [fixedOf]
  rw [readMagnitude, isWord_of_mem hpoint (by decide), isWord_of_mem hpoint (by decide),
    isWord_of_mem hpoint (by decide), readUnsigned_fixedOf]
  rfl

/-- **Reading.**  Two places are read as the double nearest to the hundredths, with their sign. -/
theorem readFloat_fixedOf (h : Nat) :
    readFloat (fixedOf h) = some (nearest h (-2)) ∧
      readFloat ('-' :: fixedOf h) = some (-nearest h (-2)) := by
  constructor
  · obtain ⟨c, ds, hds⟩ := List.exists_cons_of_ne_nil (Nat.toDigits_ne_nil (n := h / 100) (b := 10))
    have hc : isDigit c = true :=
      allDigits_toDigits (h / 100) c (by rw [hds]; exact List.mem_cons_self)
    have hfirst : fixedOf h = c :: (ds ++ '.' :: twoDigits (h % 100)) := by
      rw [fixedOf, hds]
      rfl
    have hread : readFloat (fixedOf h) = readMagnitude (fixedOf h) := by
      rw [hfirst, readFloat]
      · intro _ hminus
        rw [(List.cons.inj hminus).1] at hc
        exact absurd hc (by decide)
      · intro _ hplus
        rw [(List.cons.inj hplus).1] at hc
        exact absurd hc (by decide)
    rw [hread, readMagnitude_fixedOf]
  · rw [readFloat, readMagnitude_fixedOf]
    rfl

/-! ## Groups of digits -/

/-- Groups of three, of which the first may be shorter. -/
def Grouped : List (List Char) → Prop
  | [] => False
  | first :: rest => (1 ≤ first.length ∧ first.length ≤ 3) ∧ ∀ group ∈ rest, group.length = 3

theorem length_flatten_of_grouped {first : List Char} {rest : List (List Char)}
    (h : Grouped (first :: rest)) : (first :: rest).flatten.length % 3 = first.length % 3 := by
  have hsum : rest.flatten.length % 3 = 0 := by
    have hrest := h.2
    induction rest with
    | nil => rfl
    | cons group rest ih =>
        rw [List.forall_mem_cons] at hrest
        rw [List.flatten_cons, List.length_append, hrest.1]
        have := ih ⟨h.1, hrest.2⟩ hrest.2
        omega
  rw [List.flatten_cons, List.length_append]
  omega

/-- **Grouping.**  The commas stand between groups of three digits. -/
theorem exists_groups {ds : List Char} (hne : ds ≠ []) :
    ∃ groups, Grouped groups ∧ groups.flatten = ds ∧
      groupDigits ds = [','].intercalate groups := by
  induction ds with
  | nil => exact absurd rfl hne
  | cons c rest ih =>
      cases rest with
      | nil => exact ⟨[[c]], ⟨⟨le_rfl, by simp⟩, by simp⟩, rfl, rfl⟩
      | cons d rest =>
          obtain ⟨groups, hgrouped, hflatten, htext⟩ := ih (List.cons_ne_nil d rest)
          cases groups with
          | nil => exact hgrouped.elim
          | cons first others =>
              have hlength := length_flatten_of_grouped hgrouped
              rw [hflatten] at hlength
              obtain ⟨⟨hlow, hhigh⟩, hothers⟩ := hgrouped
              rw [groupDigits]
              by_cases hfull : (d :: rest).length % 3 = 0
              · refine ⟨[c] :: first :: others, ⟨⟨le_rfl, by simp⟩, ?_⟩, ?_, ?_⟩
                · have hthree : first.length = 3 := by omega
                  exact List.forall_mem_cons.2 ⟨hthree, hothers⟩
                · rw [List.flatten_cons, hflatten]
                  rfl
                · rw [if_pos (by simpa using hfull), htext]
                  rfl
              · refine ⟨(c :: first) :: others, ⟨⟨by simp, ?_⟩, hothers⟩, ?_, ?_⟩
                · rw [List.length_cons]
                  omega
                · rw [List.flatten_cons, List.cons_append, ← List.flatten_cons, hflatten]
                · rw [if_neg (by simpa using hfull), htext]
                  cases others <;> rfl

/-- Whatever drops the commas undoes the grouping. -/
theorem filter_groupDigits {keep : Char → Bool} (hcomma : keep ',' = false) (ds : List Char) :
    (groupDigits ds).filter keep = ds.filter keep := by
  induction ds with
  | nil => rfl
  | cons c rest ih =>
      rw [groupDigits]
      split
      · rw [List.filter_cons, List.filter_cons_of_neg (Bool.eq_false_iff.1 hcomma), ih,
          ← List.filter_cons]
      · rw [List.filter_cons, ih, ← List.filter_cons]

end Planwright.Double
