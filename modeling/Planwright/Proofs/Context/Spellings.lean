import Planwright.Proofs.Planning.Conditions

set_option autoImplicit false

/-!
# Spellings of a condition on a path

A condition may name a path plainly, as a reference, or as a reference with a filter, and white
space may stand around it.  Plainly named, with or without white space, and as a reference alone the
path is judged by the value that it leads to, and is false if it leads nowhere.

A reference that does not stand alone is text with a reference in it: it is rendered first, and the
text is judged.  With white space around it, or put down as it was written, that text always counts
as true, whatever the path leads to.  So the spellings agree exactly if the value counts as true or
no white space stands around the reference (`condition_spellings_iff`).
-/

namespace Planwright

open Fallible

/-! ## Blanks -/

namespace Text

/-- Blanks are control characters, the space, or no basic characters. -/
theorem toNat_of_isBlank {c : Char} (h : isBlank c = true) : c.toNat ≤ 32 ∨ 133 ≤ c.toNat := by
  have hranges : ∀ r ∈ blankRanges, r.last ≤ 32 ∨ 133 ≤ r.first := by decide
  obtain ⟨r, hr, hfirst, hlast⟩ := inRanges_iff.1 h
  have hrange := hranges r hr
  omega

theorem ne_of_isBlank {b c : Char} (hb : isBlank b = true) (hc : isBlank c = false) : b ≠ c := by
  rintro rfl
  rw [hb] at hc
  cases hc

theorem trimStart_of_no_blank {s : List Char} (h : ∀ c ∈ s, isBlank c = false) :
    trimStart s = s := by
  cases s with
  | nil => rfl
  | cons c s =>
      have hc : isBlank c = false := h c List.mem_cons_self
      exact List.dropWhile_cons_of_neg (by simp [hc])

theorem trimStart_append_of_blank {before s : List Char} (h : ∀ b ∈ before, isBlank b = true) :
    trimStart (before ++ s) = trimStart s := List.dropWhile_append_of_pos h

theorem trim_of_no_blank {s : List Char} (h : ∀ c ∈ s, isBlank c = false) : trim s = s := by
  have hback : ∀ c ∈ s.reverse, isBlank c = false := by simpa using h
  rw [trim, trimStart_of_no_blank h, trimStart_of_no_blank hback, List.reverse_reverse]

/-- Trimming takes away the blanks around a text that begins and ends with none. -/
theorem trim_around {before s after : List Char} (hbefore : ∀ b ∈ before, isBlank b = true)
    (hafter : ∀ b ∈ after, isBlank b = true) (hs : ∀ c ∈ s, isBlank c = false) (hne : s ≠ []) :
    trim (before ++ s ++ after) = s := by
  obtain ⟨c, rest, rfl⟩ := List.exists_cons_of_ne_nil hne
  have hc : isBlank c = false := hs c List.mem_cons_self
  have hstart : trimStart (before ++ (c :: rest) ++ after) = c :: rest ++ after := by
    rw [List.append_assoc, trimStart_append_of_blank hbefore]
    exact List.dropWhile_cons_of_neg (by simp [hc])
  have hafter' : ∀ b ∈ after.reverse, isBlank b = true := by simpa using hafter
  have hback : ∀ d ∈ (c :: rest).reverse, isBlank d = false :=
    fun d hd => hs d (List.mem_reverse.1 hd)
  rw [trim, hstart, List.reverse_append, trimStart_append_of_blank hafter',
    trimStart_of_no_blank hback, List.reverse_reverse]

/-- A character is the separator or stands in one of the parts. -/
theorem mem_splitOn {sep c : Char} {s : List Char} (h : c ∈ s) :
    c = sep ∨ ∃ word ∈ s.splitOn sep, c ∈ word := by
  induction s with
  | nil => cases h
  | cons d s ih =>
      rw [List.splitOn_cons_eq_if_modifyHead]
      by_cases hd : d = sep
      · rw [if_pos (beq_iff_eq.2 hd)]
        rcases List.mem_cons.1 h with rfl | h
        · exact .inl hd
        · rcases ih h with hc | ⟨word, hword, hc⟩
          · exact .inl hc
          · exact .inr ⟨word, List.mem_cons_of_mem _ hword, hc⟩
      · rw [if_neg (by simpa using hd)]
        cases hwords : s.splitOn sep with
        | nil => exact absurd hwords (List.splitOn_ne_nil sep s)
        | cons first others =>
            rw [hwords] at ih
            rw [List.modifyHead_cons]
            rcases List.mem_cons.1 h with rfl | h
            · exact .inr ⟨c :: first, List.mem_cons_self, List.mem_cons_self⟩
            · rcases ih h with hc | ⟨word, hword, hc⟩
              · exact .inl hc
              · rcases List.mem_cons.1 hword with rfl | hword
                · exact .inr ⟨d :: word, List.mem_cons_self, List.mem_cons_of_mem d hc⟩
                · exact .inr ⟨word, List.mem_cons_of_mem _ hword, hc⟩

/-- A blank has no lower case, and no word for a condition has blanks. -/
theorem lowerBasic_not_mem_of_isBlank {b : Char} (h : isBlank b = true) :
    lowerBasic b ∉ "false".toList := by
  have hlower : lowerBasic b = b := by
    refine if_neg fun hletter => ?_
    have hfirst : 65 ≤ b.toNat := UInt32.le_iff_toNat_le.1 hletter.1
    have hlast : b.toNat ≤ 90 := UInt32.le_iff_toNat_le.1 hletter.2
    have hbounds := toNat_of_isBlank h
    omega
  have hletters : "false".toList.any isBlank = false := by decide
  rw [hlower]
  intro hmem
  have hany : "false".toList.any isBlank = true := List.any_eq_true.2 ⟨b, hmem, h⟩
  rw [hletters] at hany
  cases hany

/-- A text with white space around it counts as true, whatever it is. -/
theorem isTruthy_around {before after : List Char} (hbefore : ∀ b ∈ before, isBlank b = true)
    (hafter : ∀ b ∈ after, isBlank b = true) (h : before ≠ [] ∨ after ≠ []) (t : List Char) :
    (Value.text (String.ofList (before ++ t ++ after))).isTruthy = true := by
  obtain ⟨b, hmem, hb⟩ : ∃ b ∈ before ++ t ++ after, isBlank b = true := by
    rcases h with h | h
    · obtain ⟨b, hmem⟩ := List.exists_mem_of_ne_nil before h
      exact ⟨b, by simp [hmem], hbefore b hmem⟩
    · obtain ⟨b, hmem⟩ := List.exists_mem_of_ne_nil after h
      exact ⟨b, by simp [hmem], hafter b hmem⟩
  apply isTruthy_of_mem (c := b)
  · rwa [String.toList_ofList]
  · exact lowerBasic_not_mem_of_isBlank hb

end Text

/-! ## Paths as references -/

namespace Reference

/-- The characters of a path lie between the hyphen and the letter `z`. -/
theorem toNat_of_isWordChar {c : Char} (h : c = '.' ∨ isWordChar c = true) :
    45 ≤ c.toNat ∧ c.toNat ≤ 122 := by
  have hle : ∀ a b : Char, a ≤ b ↔ a.toNat ≤ b.toNat := fun _ _ => UInt32.le_iff_toNat_le
  simp only [isWordChar, Bool.or_eq_true, Bool.and_eq_true, decide_eq_true_eq, beq_iff_eq,
    hle] at h
  rcases h with rfl | (((⟨h, h'⟩ | ⟨h, h'⟩) | ⟨h, h'⟩) | rfl) | rfl
  all_goals simp at *
  all_goals omega

variable {p : List Char}

theorem isWordChar_of_mem (hpath : isPath p = true) {c : Char} (h : c ∈ p) :
    c = '.' ∨ isWordChar c = true := by
  have hsplit : c = '.' ∨ ∃ word ∈ p.splitOn '.', c ∈ word := Text.mem_splitOn h
  rcases hsplit with hc | ⟨word, hword, hc⟩
  · exact .inl hc
  · have hall := List.all_eq_true.1 hpath word hword
    simp only [Bool.and_eq_true] at hall
    exact .inr (List.all_eq_true.1 hall.2 c hc)

theorem isBlank_of_mem_path (hpath : isPath p = true) {c : Char} (h : c ∈ p) :
    Text.isBlank c = false := by
  rw [← Bool.not_eq_true]
  intro hblank
  have hword := toNat_of_isWordChar (isWordChar_of_mem hpath h)
  have hbounds := Text.toNat_of_isBlank hblank
  omega

/-- What is no character of words and no point does not stand in a path. -/
theorem not_mem_path (hpath : isPath p = true) {c : Char} (hc : isWordChar c = false)
    (hpoint : c ≠ '.') : c ∉ p := by
  intro h
  rcases isWordChar_of_mem hpath h with hc' | hc'
  · exact hpoint hc'
  · rw [hc] at hc'
    cases hc'

theorem trim_path (hpath : isPath p = true) : Text.trim p = p :=
  Text.trim_of_no_blank fun _ hc => isBlank_of_mem_path hpath hc

/-- A path between braces is a reference to it. -/
theorem isWritten_path (hpath : isPath p = true) :
    IsWritten ⟨String.ofList p, none, written p⟩ := by
  have hbar : Text.cutAt '|' p = none :=
    Text.cutAt_eq_none_iff.2 (not_mem_path hpath (by decide) (by decide))
  refine ⟨p, not_mem_path hpath (by decide) (by decide), ?_⟩
  simp [ofInner?, hbar, trim_path hpath, hpath]

/-- A path and the name of a filter between braces, with a bar between them. -/
def filtered (p : List Char) (f : Filter) : List Char := p ++ '|' :: f.name.toList

/-- So written, they are a reference to the path with the filter. -/
theorem isWritten_filtered (hpath : isPath p = true) (f : Filter) :
    IsWritten ⟨String.ofList p, some f, written (filtered p f)⟩ := by
  have hbar : Text.cutAt '|' (filtered p f) = some (p, f.name.toList) :=
    Text.cutAt_append (not_mem_path hpath (by decide) (by decide)) _
  have hname : Filter.ofName? (Text.trim f.name.toList) = some f := by
    cases f <;> decide
  have hbrace : '}' ∉ filtered p f := by
    have hfilter : '}' ∉ f.name.toList := by cases f <;> decide
    have hpath' : '}' ∉ p := not_mem_path hpath (by decide) (by decide)
    simp [filtered, hpath', hfilter]
  refine ⟨filtered p f, hbrace, ?_⟩
  simp [ofInner?, hbar, hname, trim_path hpath, hpath]

end Reference

/-! ## References with white space around them -/

namespace Template

variable {before after : List Char}

theorem tokenize_blanks_append (h : ∀ b ∈ before, Text.isBlank b = true) (rest : List Char) :
    tokenize (before ++ rest) = literally before ++ tokenize rest := by
  have hmark : ∀ c, Text.isBlank c = false → c ∉ before :=
    fun c hc hmem => Text.ne_of_isBlank (h c hmem) hc rfl
  exact tokenize_unmarked_append (hmark _ (by decide)) (hmark _ (by decide)) rest

/-- A reference with white space around it is read as such. -/
theorem parse_around {r : Reference} (hr : r.IsWritten)
    (hbefore : ∀ b ∈ before, Text.isBlank b = true) (hafter : ∀ b ∈ after, Text.isBlank b = true) :
    parse (String.ofList (before ++ r.raw ++ after))
      = merge [.literal before, .reference r, .literal after] := by
  have hrest := tokenize_blanks_append hafter []
  rw [List.append_nil, tokenize_nil, List.append_nil] at hrest
  rw [merge_eq_join, parse, String.toList_ofList, List.append_assoc,
    tokenize_blanks_append hbefore, tokenize_raw hr, hrest]
  simp [Segment.tokens]

/-- A template with literal text beside a reference, or with a filter, is not one reference
alone. -/
theorem single?_merge_around {r : Reference} (h : before ≠ [] ∨ after ≠ [] ∨ r.filter ≠ none) :
    single? (merge [.literal before, .reference r, .literal after]) = none := by
  obtain ⟨path, filter, raw⟩ := r
  cases before with
  | cons b before => rfl
  | nil =>
      cases after with
      | cons a after => cases filter <;> rfl
      | nil =>
          cases filter with
          | none => simp at h
          | some f => rfl

theorem render_around (lookup : String → Option Value) (policy : UnresolvedPolicy) (r : Reference) :
    render lookup policy (merge [.literal before, .reference r, .literal after])
      = (r.render lookup policy).map fun t => before ++ t ++ after := by
  rw [render_merge, render_literal, render_reference, render_literal]
  cases r.render lookup policy with
  | error f => rfl
  | ok t => simp [render, Except.bind, Except.map]

end Template

/-! ## Verdicts -/

namespace Context

variable (c : Context) (policy : UnresolvedPolicy) {before after : List Char}

/-- A path that is named plainly is judged by its value, whatever white space stands around it. -/
theorem condition_plain {p : String} (hpath : Reference.isPath p.toList = true) (htrue : p ≠ "true")
    (hfalse : p ≠ "false") (hbefore : ∀ b ∈ before, Text.isBlank b = true)
    (hafter : ∀ b ∈ after, Text.isBlank b = true) :
    c.condition policy (.text (String.ofList (before ++ p.toList ++ after)))
      = .ok (c.holdsAt p) := by
  have hne : p.toList ≠ [] := by
    intro hnil
    rw [hnil] at hpath
    cases hpath
  have hword : Text.trimString (String.ofList (before ++ p.toList ++ after)) = p := by
    rw [Text.trimString, String.toList_ofList, Text.trim_around hbefore hafter
      (fun _ hc => Reference.isBlank_of_mem_path hpath hc) hne, String.ofList_toList]
  have hreferences := Template.references_of_trimString hword
    (Reference.not_mem_path hpath (by decide) (by decide))
    (Reference.not_mem_path hpath (by decide) (by decide))
  rw [condition_of_no_references policy c hreferences, bareVerdict, hword]
  simp [htrue, hfalse]

variable {r : Reference}

/-- A reference that does not stand alone is rendered, and the text is judged. -/
theorem condition_around (hr : r.IsWritten)
    (hbefore : ∀ b ∈ before, Text.isBlank b = true) (hafter : ∀ b ∈ after, Text.isBlank b = true)
    (h : before ≠ [] ∨ after ≠ [] ∨ r.filter ≠ none) :
    c.condition policy (.text (String.ofList (before ++ r.raw ++ after)))
      = (r.render c.resolve policy).map fun t =>
          (Value.text (String.ofList (before ++ t ++ after))).isTruthy := by
  have hparse := Template.parse_around hr hbefore hafter
  have hreferences :
      (Template.parse (String.ofList (before ++ r.raw ++ after))).references ≠ [] := by
    rw [hparse, Template.references_merge]
    simp
  rw [condition_of_references policy c hreferences, hparse, Template.single?_merge_around h, render,
    hparse, Template.render_around]
  cases r.render c.resolve policy <;> rfl

/-- With white space around it, a reference counts as true if it can be rendered at all. -/
theorem condition_padded (hr : r.IsWritten)
    (hbefore : ∀ b ∈ before, Text.isBlank b = true) (hafter : ∀ b ∈ after, Text.isBlank b = true)
    (h : before ≠ [] ∨ after ≠ []) :
    c.condition policy (.text (String.ofList (before ++ r.raw ++ after)))
      = (r.render c.resolve policy).map fun _ => true := by
  rw [c.condition_around policy hr hbefore hafter (h.imp_right .inl)]
  congr 1
  funext t
  exact Text.isTruthy_around hbefore hafter h t

/-- A reference that leads nowhere and does not stand alone is put down as it was written, and
counts as true, or is a failure. -/
theorem condition_unresolved (hr : r.IsWritten)
    (hbefore : ∀ b ∈ before, Text.isBlank b = true) (hafter : ∀ b ∈ after, Text.isBlank b = true)
    (h : before ≠ [] ∨ after ≠ [] ∨ r.filter ≠ none) (hnone : c.resolve r.path = none) :
    c.condition policy (.text (String.ofList (before ++ r.raw ++ after)))
      = if policy = .passThrough then .ok true else .error r.unresolved := by
  have hdollar : '$' ∈ before ++ r.raw ++ after := by
    obtain ⟨inner, -, hinner⟩ := hr
    simp [Reference.raw_of_ofInner? hinner, Reference.written]
  rw [← String.toList_ofList (l := before ++ r.raw ++ after)] at hdollar
  have htrue := Text.isTruthy_of_mem hdollar (by decide)
  rw [c.condition_around policy hr hbefore hafter h]
  unfold Reference.render
  rw [hnone]
  cases policy with
  | passThrough => exact congrArg Except.ok htrue
  | error => rfl

/-- A reference without a filter that stands alone is judged by its value. -/
theorem condition_alone (hr : r.IsWritten) (hfilter : r.filter = none) :
    c.condition policy (.text (String.ofList r.raw)) = .ok (c.holdsAt r.path) := by
  have hnone : ∀ b ∈ ([] : List Char), Text.isBlank b = true := by simp
  have hparse := Template.parse_around hr hnone hnone
  have hsingle : (Template.parse (String.ofList r.raw)).single? = some r.path := by
    rw [Template.single?_eq_some_iff]
    obtain ⟨path, filter, raw⟩ := r
    obtain rfl : filter = none := hfilter
    exact ⟨raw, by simpa [Template.merge] using hparse⟩
  exact c.condition_of_single policy hsingle

/-- With white space around it, a reference is judged like its value exactly if that counts as
true. -/
theorem condition_padded_eq_iff (hr : r.IsWritten)
    (hbefore : ∀ b ∈ before, Text.isBlank b = true) (hafter : ∀ b ∈ after, Text.isBlank b = true)
    (h : before ≠ [] ∨ after ≠ []) :
    c.condition policy (.text (String.ofList (before ++ r.raw ++ after)))
      = .ok (c.holdsAt r.path) ↔ c.holdsAt r.path = true := by
  cases hfound : c.resolve r.path with
  | none =>
      have hfalse : c.holdsAt r.path = false := by simp [holdsAt, hfound]
      rw [c.condition_unresolved policy hr hbefore hafter (h.imp_right .inl) hfound, hfalse]
      cases policy <;> simp
  | some v =>
      rw [c.condition_padded policy hr hbefore hafter h]
      unfold Reference.render
      rw [hfound, Except.map, Except.ok.injEq]
      exact eq_comm

/-- **Spellings of a condition.**  A path that is named plainly, with white space around it or
without, is judged by the value that it leads to.  A reference to it is so exactly if no white space
stands around it or the value counts as true anyway.  A reference with a filter to a path that leads
nowhere is never judged false: it counts as true where such references are passed through, and is a
failure where they are errors. -/
theorem condition_spellings_iff {p : String} (hpath : Reference.isPath p.toList = true)
    (htrue : p ≠ "true") (hfalse : p ≠ "false") (hbefore : ∀ b ∈ before, Text.isBlank b = true)
    (hafter : ∀ b ∈ after, Text.isBlank b = true) :
    c.condition policy (.text (String.ofList (before ++ p.toList ++ after)))
      = .ok (c.holdsAt p) ∧
    (c.condition policy (.text (String.ofList (before ++ Reference.written p.toList ++ after)))
        = .ok (c.holdsAt p) ↔ before = [] ∧ after = [] ∨ c.holdsAt p = true) ∧
    (c.resolve p = none → ∀ f : Filter,
      c.condition policy (.text (String.ofList
          (before ++ Reference.written (Reference.filtered p.toList f) ++ after)))
        = if policy = .passThrough then .ok true
          else .error (.invalid ("unresolved placeholder '" ++ p ++ "'"))) := by
  refine ⟨c.condition_plain policy hpath htrue hfalse hbefore hafter, ?reference, ?filtered⟩
  case reference =>
    have hr := Reference.isWritten_path hpath
    rw [String.ofList_toList] at hr
    by_cases halone : before = [] ∧ after = []
    · obtain ⟨rfl, rfl⟩ := halone
      simpa using c.condition_alone policy hr rfl
    · have hpadded : before ≠ [] ∨ after ≠ [] := Classical.not_and_iff_not_or_not.1 halone
      simpa [halone] using c.condition_padded_eq_iff policy hr hbefore hafter hpadded
  case filtered =>
    intro hnone f
    have hr := Reference.isWritten_filtered hpath f
    rw [String.ofList_toList] at hr
    have hother : before ≠ [] ∨ after ≠ [] ∨ some f ≠ none := .inr (.inr (Option.some_ne_none f))
    exact (c.condition_unresolved policy hr hbefore hafter hother hnone :)

/-- A path that is set to something false, with a space in front. -/
theorem condition_spellings_flag :
    (empty.assign "flag" (.bool false)).condition .passThrough (.text " flag") = .ok false ∧
    (empty.assign "flag" (.bool false)).condition .passThrough (.text " ${flag}") ≠ .ok false := by
  have hbefore : ∀ b ∈ [' '], Text.isBlank b = true := by
    intro b hb
    obtain rfl := List.mem_singleton.1 hb
    decide
  have hafter : ∀ b ∈ ([] : List Char), Text.isBlank b = true := by simp
  have h := condition_spellings_iff (empty.assign "flag" (.bool false)) .passThrough (p := "flag")
    (by decide) (by decide) (by decide) hbefore hafter
  have hflag : (empty.assign "flag" (.bool false)).holdsAt "flag" = false := by
    rw [holdsAt_assign_self _ (by decide)]
    rfl
  rw [hflag] at h
  refine ⟨h.1, fun heq => ?_⟩
  simpa using h.2.1.1 heq

/-- The spellings of a false value and of none: white space around the reference makes it true, and
so does a filter. -/
theorem spellings_differ :
    (empty.assign "flag" (.bool false)).condition .passThrough (.text "${flag}") = .ok false ∧
    (empty.assign "flag" (.bool false)).condition .passThrough (.text " ${flag}") = .ok true ∧
    empty.condition .passThrough (.text "${flag|upper}") = .ok true := by
  refine ⟨?alone, ?padded, ?filtered⟩
  all_goals
    apply eq_ok_of_toOption
    decide +kernel

end Context

end Planwright
