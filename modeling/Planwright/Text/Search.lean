set_option autoImplicit false

/-!
# Searching and cutting text

Small operations on text as a list of characters: finding one text inside another, cutting at
a separator, and removing a known beginning.
-/

namespace Planwright.Text

/-- Whether `needle` occurs in the text as a contiguous part; the empty text always does. -/
def occursIn (needle : List Char) : List Char → Bool
  | [] => needle.isEmpty
  | c :: rest => needle.isPrefixOf (c :: rest) || occursIn needle rest

/-- `occursIn` decides that a text is a contiguous part of another. -/
theorem occursIn_iff {needle text : List Char} :
    occursIn needle text = true ↔ needle <:+: text := by
  induction text with
  | nil => simp [occursIn, List.isEmpty_iff]
  | cons c rest ih =>
    simp only [occursIn, Bool.or_eq_true, List.isPrefixOf_iff_prefix, ih]
    constructor
    · rintro (h | h)
      · exact h.isInfix
      · obtain ⟨a, b, rfl⟩ := h
        exact ⟨c :: a, b, by simp⟩
    · rintro ⟨a, b, h⟩
      cases a with
      | nil => exact Or.inl ⟨b, by simpa using h⟩
      | cons x a =>
        simp only [List.cons_append, List.cons.injEq] at h
        exact Or.inr ⟨a, b, h.2⟩

/-- Cuts the text at the first occurrence of `sep`, which belongs to neither part. -/
def cutAt (sep : Char) : List Char → Option (List Char × List Char)
  | [] => none
  | c :: rest =>
    if c = sep then some ([], rest)
    else (cutAt sep rest).map fun (before, after) => (c :: before, after)

/-- A cut loses the separator only, and the separator is not in the first part. -/
theorem eq_of_cutAt {sep : Char} {text before after : List Char}
    (h : cutAt sep text = some (before, after)) :
    text = before ++ sep :: after ∧ sep ∉ before := by
  induction text generalizing before with
  | nil => simp [cutAt] at h
  | cons c rest ih =>
    simp only [cutAt] at h
    split at h
    · next hc => simp_all
    · next hc =>
      obtain ⟨⟨b, a⟩, hcut, he⟩ := Option.map_eq_some_iff.1 h
      obtain ⟨rfl, rfl⟩ := Prod.mk.inj he
      obtain ⟨hr, hb⟩ := ih hcut
      exact ⟨by rw [hr]; rfl, by simp [hb, Ne.symm hc]⟩

/-- A text cannot be cut exactly when the separator does not occur in it. -/
theorem cutAt_eq_none_iff {sep : Char} {text : List Char} :
    cutAt sep text = none ↔ sep ∉ text := by
  induction text with
  | nil => simp [cutAt]
  | cons c rest ih =>
    by_cases hc : c = sep
    · simp [cutAt, hc]
    · simp [cutAt, hc, ih, Ne.symm hc]

/-- A text is cut at the first separator, whatever stands behind it. -/
theorem cutAt_append {sep : Char} {before : List Char} (h : sep ∉ before) (after : List Char) :
    cutAt sep (before ++ sep :: after) = some (before, after) := by
  induction before with
  | nil => simp [cutAt]
  | cons c before ih =>
    simp only [List.mem_cons, not_or] at h
    simp [cutAt, Ne.symm h.1, ih h.2]

/-- A word ends at the first separator behind it. -/
theorem append_cons_inj {sep : Char} {word other rest more : List Char} (hword : sep ∉ word)
    (hother : sep ∉ other) (h : word ++ sep :: rest = other ++ sep :: more) :
    word = other ∧ rest = more := by
  have hcut := cutAt_append hword rest
  rw [h, cutAt_append hother more] at hcut
  obtain ⟨hwords, hrests⟩ := Prod.mk.inj (Option.some.inj hcut)
  exact ⟨hwords.symm, hrests.symm⟩

theorem length_of_cutAt {sep : Char} {text before after : List Char}
    (h : cutAt sep text = some (before, after)) :
    before.length + after.length + 1 = text.length := by
  rw [(eq_of_cutAt h).1]
  simp only [List.length_append, List.length_cons]
  omega

/-- What is left after a cut is shorter. -/
theorem length_lt_of_cutAt {sep : Char} {text before after : List Char}
    (h : cutAt sep text = some (before, after)) : after.length < text.length := by
  have := length_of_cutAt h
  omega

/-- The parts of a string between occurrences of `sep`: always at least one. -/
def piecesOf (sep : Char) (s : String) : List String := (s.toList.splitOn sep).map String.ofList

/-- The rest of the text after a known beginning, if it begins so. -/
def afterStart? : List Char → List Char → Option (List Char)
  | [], text => some text
  | _ :: _, [] => none
  | p :: ps, c :: rest => if p = c then afterStart? ps rest else none

theorem afterStart?_eq_some_iff {start text rest : List Char} :
    afterStart? start text = some rest ↔ text = start ++ rest := by
  induction start generalizing text with
  | nil => simp [afterStart?]
  | cons p ps ih =>
    cases text with
    | nil => simp [afterStart?]
    | cons c cs =>
      by_cases h : p = c
      · simp [afterStart?, h, ih]
      · simp [afterStart?, h, Ne.symm h]

end Planwright.Text
