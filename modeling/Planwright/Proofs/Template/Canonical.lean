import Planwright.Proofs.Template.Restating

set_option autoImplicit false

/-!
# Parsed templates

What is read from a text is *canonical*: no literal is empty, no two literals are neighbours, and
each reference is exactly what its own text denotes, braces included.  Nothing else is asked for:
every canonical template is read from some text, the one in which its literals are escaped.

Escaped text is the simplest such text.  It is read as one literal, or as nothing if there is
nothing to escape (`parse_canonical`).
-/

namespace Planwright

/-! ## References -/

namespace Reference

/-- Words joined by points, none of them empty, of basic letters and digits, `_` and `-`. -/
def IsDotted (path : List Char) : Prop :=
  ∃ words, words ≠ [] ∧ path = ['.'].intercalate words ∧
    ∀ word ∈ words, word ≠ [] ∧ ∀ c ∈ word, c.isAlphanum = true ∨ c = '_' ∨ c = '-'

/-- A reference of a parsed template: its text opens with `${`, ends in its only closing brace and
denotes this reference and nothing more. -/
structure Canonical (r : Reference) : Prop where
  path : IsDotted r.path.toList
  raw : ∃ inner, r.raw = '$' :: '{' :: inner ++ ['}'] ∧ '}' ∉ inner
  alone : Template.parse (String.ofList r.raw) = [.reference r]

theorem isWordChar_iff {c : Char} :
    isWordChar c = true ↔ c.isAlphanum = true ∨ c = '_' ∨ c = '-' := by
  have hrange (first last : Char) :
      (decide (c.val ≥ first.val) && decide (c.val ≤ last.val)) = true ↔ first ≤ c ∧ c ≤ last := by
    rw [Bool.and_eq_true, decide_eq_true_eq, decide_eq_true_eq]
    rfl
  have hupper : c.isUpper = true ↔ 'A' ≤ c ∧ c ≤ 'Z' := decide_eq_true_iff
  have hlower : c.isLower = true ↔ 'a' ≤ c ∧ c ≤ 'z' := hrange 'a' 'z'
  have hdigit : c.isDigit = true ↔ '0' ≤ c ∧ c ≤ '9' := hrange '0' '9'
  have halphanum : c.isAlphanum = (c.isUpper || c.isLower || c.isDigit) := rfl
  rw [halphanum, isWordChar, Bool.or_comm c.isUpper]
  simp only [Bool.or_eq_true, Bool.and_eq_true, decide_eq_true_eq, beq_iff_eq, hupper, hlower,
    hdigit, or_assoc]

theorem isDotted_of_isPath {p : List Char} (h : isPath p = true) : IsDotted p := by
  refine ⟨p.splitOn '.', List.splitOn_ne_nil '.' p, (List.intercalate_splitOn '.').symm, ?_⟩
  intro word hword
  have hall := List.all_eq_true.1 h word hword
  rw [Bool.and_eq_true, Bool.not_eq_true', List.isEmpty_eq_false_iff] at hall
  exact ⟨hall.1, fun c hc => isWordChar_iff.1 (List.all_eq_true.1 hall.2 c hc)⟩

/-- What is read between braces has a path. -/
theorem isPath_of_ofInner? {inner : List Char} {r : Reference} (h : ofInner? inner = some r) :
    isPath r.path.toList = true := by
  unfold ofInner? at h
  split at h
  · obtain ⟨hpath, hr⟩ := Option.ite_none_right_eq_some.1 h
    rwa [← Option.some.inj hr, String.toList_ofList]
  · split at h
    · cases h
    · obtain ⟨hpath, hr⟩ := Option.ite_none_right_eq_some.1 h
      rwa [← Option.some.inj hr, String.toList_ofList]

theorem IsWritten.canonical {r : Reference} (h : r.IsWritten) : r.Canonical := by
  have halone : Template.tokenize r.raw = [.ref r] := by
    have hraw := Template.tokenize_raw h []
    rwa [List.append_nil, Template.tokenize_nil] at hraw
  obtain ⟨inner, hbrace, hinner⟩ := h
  refine ⟨isDotted_of_isPath (isPath_of_ofInner? hinner),
    ⟨inner, raw_of_ofInner? hinner, hbrace⟩, ?_⟩
  rw [Template.parse, String.toList_ofList, halone]
  rfl

theorem Canonical.isWritten {r : Reference} (h : r.Canonical) : r.IsWritten := by
  have hmem : Segment.reference r ∈ Template.parse (String.ofList r.raw) := by
    rw [h.alone]
    exact List.mem_singleton_self _
  exact Template.isWritten_of_mem_parse hmem

end Reference

/-! ## Templates -/

namespace Template

/-- What is known of every parsed template. -/
structure Canonical (t : Template) : Prop where
  filled : ∀ text, .literal text ∈ t → text ≠ []
  apart : ∀ before after u v, t ≠ before ++ .literal u :: .literal v :: after
  references : ∀ r, .reference r ∈ t → r.Canonical

theorem ne_nil_of_mem_join {ts : List Token} {text : List Char} (h : .literal text ∈ join ts) :
    text ≠ [] := by
  fun_induction join ts with
  | case1 => cases h
  | case2 r ts ih =>
      rcases List.mem_cons.1 h with h | h
      · cases h
      · exact ih h
  | case3 c ts t rest hjoin ih =>
      rcases List.mem_cons.1 h with h | h
      · cases h
        exact List.cons_ne_nil c t
      · exact ih (hjoin ▸ List.mem_cons_of_mem _ h)
  | case4 c ts hjoin ih =>
      rcases List.mem_cons.1 h with h | h
      · cases h
        exact List.cons_ne_nil c []
      · exact ih h

/-- Wherever two literals stand one after the other, they are neighbours. -/
theorem separated_iff {t : Template} :
    Separated t ↔ ∀ before after u v, t ≠ before ++ .literal u :: .literal v :: after := by
  constructor
  · intro h
    induction h with
    | nil => exact fun before _ _ _ heq => by cases before <;> cases heq
    | reference r _ ih =>
        intro before after u v heq
        cases before with
        | nil => cases heq
        | cons part before => exact ih before after u v (List.cons.inj heq).2
    | literal t _ next ih =>
        intro before after u v heq
        cases before with
        | nil => exact next v after (List.cons.inj heq).2
        | cons part before => exact ih before after u v (List.cons.inj heq).2
  · intro h
    induction t with
    | nil => exact .nil
    | cons part rest ih =>
        have hrest : Separated rest := ih fun before after u v heq =>
          h (part :: before) after u v (congrArg (part :: ·) heq)
        cases part with
        | reference r => exact .reference r hrest
        | literal t =>
            exact .literal t hrest fun u more heq => h [] more t u (congrArg (.literal t :: ·) heq)

/-- Where no literal is empty and none has a literal next to it, nothing is left to merge. -/
theorem Separated.merge_eq {t : Template} (h : Separated t)
    (hfilled : ∀ text, .literal text ∈ t → text ≠ []) : merge t = t := by
  induction h with
  | nil => rfl
  | reference r _ ih =>
      rw [merge, ih fun text hmem => hfilled text (List.mem_cons_of_mem _ hmem)]
  | @literal t rest _ next ih =>
      have hrest := ih fun text hmem => hfilled text (List.mem_cons_of_mem _ hmem)
      obtain ⟨c, text, rfl⟩ := List.exists_cons_of_ne_nil (hfilled t List.mem_cons_self)
      rw [merge, hrest]
      split
      · exact absurd rfl (next _ _)
      · rfl

/-- A canonical template is read from the text in which its literals are escaped. -/
theorem Canonical.parse_substitute {t : Template} (h : Canonical t) :
    parse (String.ofList (substitute (fun _ => none) t)) = t := by
  have hseparated : Separated t := separated_iff.2 h.apart
  have hsound : ∀ g ∈ Glyph.ofTemplate t, g.Sound := by
    intro g hg
    obtain ⟨part, hpart, hg⟩ := List.mem_flatMap.1 hg
    cases part with
    | literal text => exact Glyph.sound_of_mem_ofLiteral hg
    | reference r =>
        obtain rfl := List.mem_singleton.1 hg
        exact (h.references r hpart).isWritten
  have hread := hseparated.harmless.tokenize_textAll hsound
  rw [parse, String.toList_ofList, substitute_eq, expand_none, hread, tokensAll_ofTemplate,
    ← merge_eq_join, hseparated.merge_eq h.filled]

theorem canonical_parse (s : String) : Canonical (parse s) where
  filled _ h := ne_nil_of_mem_join h
  apart := separated_iff.1 (separated_join _)
  references _ h := (isWritten_of_mem_parse h).canonical

theorem join_literally (t : List Char) :
    join (literally t) = if t = [] then [] else [.literal t] := by
  cases t with
  | nil => rfl
  | cons c t =>
      have hjoin := join_literally_append c t []
      rwa [List.append_nil] at hjoin

/-- **Parsed templates.**  From every text a canonical template is read, and every canonical
template is read from some text.  An escaped text is read as that text, in one literal. -/
theorem parse_canonical :
    (∀ s, Canonical (parse s)) ∧
    (∀ t, Canonical t → ∃ s, parse s = t) ∧
    (∀ text : String, parse (escapeString text) =
      if text = "" then [] else [.literal text.toList]) := by
  refine ⟨canonical_parse, fun t h => ⟨_, h.parse_substitute⟩, fun text => ?_⟩
  rw [parse_escapeString, join_literally]
  simp only [String.toList_eq_nil_iff]

end Template

end Planwright
