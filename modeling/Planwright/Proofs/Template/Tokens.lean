import Planwright.Template.Render

set_option autoImplicit false

/-!
# What is read at each beginning of a text

The reader of templates looks at the beginning of a text: an escape, an opening `${`, or a
character that stands for itself.  Each beginning has its equation here, so that no later proof
opens the reader.

Two facts carry what is said about reading a text that was put together from pieces.  Joining
characters to literals loses nothing (`tokens_join`), and a reference that was read from a text
reads as itself wherever its own text stands (`tokenize_raw`).
-/

namespace Planwright

namespace Reference

/-- The reference is what its own text denotes: the braces of the text are the first closed pair
in it, and what stands between them is read as this reference. -/
def IsWritten (r : Reference) : Prop := ∃ inner, '}' ∉ inner ∧ ofInner? inner = some r

/-- A reference keeps the text that it was read from. -/
theorem raw_of_ofInner? {inner : List Char} {r : Reference} (h : ofInner? inner = some r) :
    r.raw = written inner := by
  unfold ofInner? at h
  split at h
  · simp only [Option.ite_none_right_eq_some, Option.some.injEq] at h
    rw [← h.2]
  · split at h
    · simp at h
    · simp only [Option.ite_none_right_eq_some, Option.some.injEq] at h
      rw [← h.2]

end Reference

/-- The tokens that a part of a template stands for. -/
def Segment.tokens : Segment → List Token
  | .literal t => Template.literally t
  | .reference r => [.ref r]

namespace Template

/-! ## Literal characters -/

@[simp] theorem literally_nil : literally [] = [] := rfl

@[simp] theorem literally_cons (c : Char) (s : List Char) :
    literally (c :: s) = .char c :: literally s := rfl

@[simp] theorem literally_append (s t : List Char) :
    literally (s ++ t) = literally s ++ literally t := List.map_append

/-! ## Beginnings -/

@[simp] theorem tokenize_nil : tokenize [] = [] := by rw [tokenize]

/-- An escaped backslash. -/
theorem tokenize_backslash (rest : List Char) :
    tokenize ('\\' :: '\\' :: rest) = .char '\\' :: tokenize rest := by rw [tokenize]

/-- An escaped opening. -/
theorem tokenize_opening (rest : List Char) :
    tokenize ('\\' :: '$' :: '{' :: rest) = .char '$' :: .char '{' :: tokenize rest := by
  rw [tokenize]

/-- A character that begins neither an escape nor an opening stands for itself. -/
theorem tokenize_plain {c : Char} {rest : List Char} (hc : c ≠ '\\')
    (hopen : c = '$' → ∀ more, rest ≠ '{' :: more) :
    tokenize (c :: rest) = .char c :: tokenize rest := by
  rw [tokenize]
  · intro _ h; exact absurd h hc
  · intro _ h; exact absurd h hc
  · intro more h hrest; exact hopen h more hrest

/-- Text without backslashes and dollar signs is read as it is. -/
theorem tokenize_unmarked_append {t : List Char} (hbackslash : '\\' ∉ t) (hdollar : '$' ∉ t)
    (rest : List Char) : tokenize (t ++ rest) = literally t ++ tokenize rest := by
  induction t with
  | nil => rfl
  | cons c t ih =>
      simp only [List.mem_cons, not_or] at hbackslash hdollar
      rw [List.cons_append, tokenize_plain (Ne.symm hbackslash.1)
        (fun hc => absurd hc (Ne.symm hdollar.1)), ih hbackslash.2 hdollar.2]
      rfl

/-- A closed opening around a well-formed reference. -/
theorem tokenize_closed {rest inner after : List Char} {r : Reference}
    (hcut : Text.cutAt '}' rest = some (inner, after))
    (hinner : Reference.ofInner? inner = some r) :
    tokenize ('$' :: '{' :: rest) = .ref r :: tokenize after := by
  rw [tokenize]
  split
  · rename_i hnone
    rw [hcut] at hnone
    cases hnone
  · rename_i hsome
    rw [hcut] at hsome
    cases hsome
    simp [hinner]

/-- The text of a reference reads as the reference, whatever stands after it. -/
theorem tokenize_raw {r : Reference} (h : r.IsWritten) (rest : List Char) :
    tokenize (r.raw ++ rest) = .ref r :: tokenize rest := by
  obtain ⟨inner, hbrace, hinner⟩ := h
  have hcut : Text.cutAt '}' (inner ++ '}' :: rest) = some (inner, rest) :=
    Text.cutAt_append hbrace rest
  rw [Reference.raw_of_ofInner? hinner]
  simpa [Reference.written] using tokenize_closed hcut hinner

/-! ## After an opening that leads to no reference

Such an opening makes literal text of all that stands up to the next closing brace, escapes and
other openings included, and of the whole rest if there is none. -/

/-- The tokens of the text after such an opening. -/
def swallow : List Char → List Token
  | [] => []
  | c :: rest => .char c :: if c = '}' then tokenize rest else swallow rest

theorem swallow_of_cutAt_eq_none {s : List Char} (h : Text.cutAt '}' s = none) :
    swallow s = literally s := by
  rw [Text.cutAt_eq_none_iff] at h
  induction s with
  | nil => rfl
  | cons c s ih =>
      simp only [List.mem_cons, not_or] at h
      simp [swallow, Ne.symm h.1, ih h.2]

theorem swallow_of_cutAt_eq_some {s inner after : List Char}
    (h : Text.cutAt '}' s = some (inner, after)) :
    swallow s = literally inner ++ .char '}' :: tokenize after := by
  obtain ⟨hs, hinner⟩ := Text.eq_of_cutAt h
  subst hs
  clear h
  induction inner with
  | nil => simp [swallow]
  | cons c inner ih =>
      simp only [List.mem_cons, not_or] at hinner
      simp [swallow, Ne.symm hinner.1, ih hinner.2]

/-- An opening whose braces hold no reference. -/
theorem tokenize_malformed {rest : List Char}
    (h : ∀ inner after, Text.cutAt '}' rest = some (inner, after) →
      Reference.ofInner? inner = none) :
    tokenize ('$' :: '{' :: rest) = .char '$' :: .char '{' :: swallow rest := by
  rw [tokenize]
  split
  · rename_i hnone
    simp [swallow_of_cutAt_eq_none hnone]
  · rename_i inner after hsome
    simp [h inner after hsome, swallow_of_cutAt_eq_some hsome, Reference.written]

/-- An opening that nothing closes is read as it is, with all the rest. -/
theorem tokenize_unclosed {rest : List Char} (h : Text.cutAt '}' rest = none) :
    tokenize ('$' :: '{' :: rest) = literally ('$' :: '{' :: rest) := by
  rw [tokenize_malformed (by simp [h]), swallow_of_cutAt_eq_none h]
  rfl

/-- Braces around no reference are read as they are. -/
theorem tokenize_no_reference {inner : List Char} (hbrace : '}' ∉ inner)
    (hinner : Reference.ofInner? inner = none) (rest : List Char) :
    tokenize (Reference.written inner ++ rest)
      = literally (Reference.written inner) ++ tokenize rest := by
  have hcut := Text.cutAt_append hbrace rest
  have hread : tokenize ('$' :: '{' :: (inner ++ '}' :: rest))
      = .char '$' :: .char '{' :: swallow (inner ++ '}' :: rest) :=
    tokenize_malformed (by simp [hcut, hinner])
  rw [swallow_of_cutAt_eq_some hcut] at hread
  simpa [Reference.written] using hread

/-! ## Joining -/

/-- Joining keeps the tokens, only neighbouring characters come together. -/
theorem tokens_join (ts : List Token) : (join ts).flatMap Segment.tokens = ts := by
  induction ts with
  | nil => rfl
  | cons t ts ih =>
      cases t with
      | ref r => simp [join, Segment.tokens, ih]
      | char c =>
          rw [join]
          split
          · rename_i text rest hjoin
            rw [hjoin] at ih
            rw [← ih]
            simp [Segment.tokens]
          · simp [Segment.tokens, ih]

theorem join_inj {ts us : List Token} : join ts = join us ↔ ts = us := by
  constructor
  · intro h
    rw [← tokens_join ts, h, tokens_join us]
  · exact congrArg join

/-! ## The references of a text -/

/-- Every reference that is read from a text is what its own text denotes. -/
theorem isWritten_of_mem_tokenize {s : List Char} {r : Reference} (h : .ref r ∈ tokenize s) :
    r.IsWritten := by
  induction s using tokenize.induct with
  | case1 => simp at h
  | case2 rest ih => exact ih (by simpa [tokenize_backslash] using h)
  | case3 rest ih => exact ih (by simpa [tokenize_opening] using h)
  | case4 rest hcut =>
      rw [tokenize_unclosed hcut] at h
      simp [literally] at h
  | case5 rest inner after hcut _ found hinner ih =>
      rw [tokenize_closed hcut hinner] at h
      cases h with
      | head => exact ⟨inner, (Text.eq_of_cutAt hcut).2, hinner⟩
      | tail _ h => exact ih h
  | case6 rest inner after hcut _ hinner ih =>
      rw [tokenize_malformed (by simp [hcut, hinner]), swallow_of_cutAt_eq_some hcut] at h
      exact ih (by simpa [literally] using h)
  | case7 c rest hb hbo ho ih =>
      rw [tokenize.eq_5 c rest hb hbo ho] at h
      exact ih (by simpa using h)

/-- Every reference of a parsed template is what its own text denotes. -/
theorem isWritten_of_mem_parse {s : String} {r : Reference} (h : .reference r ∈ parse s) :
    r.IsWritten := by
  apply isWritten_of_mem_tokenize (s := s.toList)
  rw [← tokens_join (tokenize s.toList)]
  exact List.mem_flatMap.2 ⟨.reference r, h, by simp [Segment.tokens]⟩

end Template

end Planwright
