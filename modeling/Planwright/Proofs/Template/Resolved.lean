import Planwright.Proofs.Template.Restating

set_option autoImplicit false

/-!
# Templates whose references all have values

Final text is no template any more, but it may be read as one again.  A value can then bring a
reference with it, or complete one together with the text around it.

Neither happens if the values are *neutral*: not empty, and without the signs that escapes and
openings are made of.  In a template without backslashes every reference is then gone for good
(`render_leaves_no_reference`): the final text is read as literal text, and rendering it changes
nothing.
-/

namespace Planwright

/-- A text that begins no escape and no opening, and that completes none: there is a character of it
between what stands before it and what stands behind it. -/
structure NeutralText (t : List Char) : Prop where
  ne_nil : t ≠ []
  no_backslash : '\\' ∉ t
  no_dollar : '$' ∉ t
  no_brace : '{' ∉ t

/-- A token with its text put in place of a reference. -/
def Token.filled (text : Reference → List Char) : Token → List Char
  | .char c => [c]
  | .ref r => text r

namespace Template

/-- The text of tokens with a text put in place of each reference. -/
def filled (text : Reference → List Char) (ts : List Token) : List Char :=
  ts.flatMap (Token.filled text)

@[simp] theorem filled_nil (text : Reference → List Char) : filled text [] = [] := rfl

@[simp] theorem filled_char (text : Reference → List Char) (c : Char) (ts : List Token) :
    filled text (.char c :: ts) = c :: filled text ts := rfl

@[simp] theorem filled_ref (text : Reference → List Char) (r : Reference) (ts : List Token) :
    filled text (.ref r :: ts) = text r ++ filled text ts := rfl

theorem filled_append (text : Reference → List Char) (ts us : List Token) :
    filled text (ts ++ us) = filled text ts ++ filled text us := List.flatMap_append

theorem filled_literally (text : Reference → List Char) (s : List Char) :
    filled text (literally s) = s := by
  induction s with
  | nil => rfl
  | cons c s ih => rw [literally_cons, filled_char, ih]

/-! ## What rendering gives -/

/-- Where each reference has its text, rendering puts these texts in place. -/
theorem render_eq_filled {lookup : String → Option Value} {policy : UnresolvedPolicy}
    {text : Reference → List Char} {t : Template}
    (h : ∀ r ∈ t.references, r.render lookup policy = .ok (text r)) :
    render lookup policy t = .ok (filled text (t.flatMap Segment.tokens)) := by
  induction t with
  | nil => rfl
  | cons part rest ih =>
      rw [List.flatMap_cons, filled_append]
      cases part with
      | literal u =>
          rw [render_literal, ih h, Segment.tokens, filled_literally]
          rfl
      | reference r =>
          obtain ⟨hr, hrest⟩ := List.forall_mem_cons.1 h
          rw [render_reference, hr, ih hrest, Segment.tokens]
          simp [Except.bind, Except.map]

theorem mem_references_of_mem_tokenize {s : String} {r : Reference}
    (h : .ref r ∈ tokenize s.toList) : r ∈ (parse s).references := by
  rw [← tokens_join (tokenize s.toList)] at h
  obtain ⟨part, hpart, hr⟩ := List.mem_flatMap.1 h
  cases part with
  | literal u => simp [Segment.tokens, literally] at hr
  | reference r' =>
      obtain rfl : r = r' := by simpa [Segment.tokens] using hr
      exact List.mem_filterMap.2 ⟨.reference r, hpart, rfl⟩

/-! ## Reading it again -/

section Reading

variable {text : Reference → List Char} {s : List Char}

/-- The first character is read from itself, if no escape stands before it. -/
theorem eq_cons_of_tokenize {c : Char} {ts : List Token} (hs : '\\' ∉ s)
    (h : tokenize s = .char c :: ts) : ∃ rest, s = c :: rest := by
  cases s using tokenize.fun_cases with
  | case1 => simp at h
  | case2 rest => simp at hs
  | case3 rest => simp at hs
  | case4 rest hcut =>
      rw [tokenize_unclosed hcut] at h
      exact ⟨_, by rw [(Token.char.inj (List.cons.inj h).1)]⟩
  | case5 rest inner after hcut _ r hinner =>
      rw [tokenize_closed hcut hinner] at h
      cases h
  | case6 rest inner after hcut _ hinner =>
      rw [tokenize_malformed (by simp [hcut, hinner])] at h
      exact ⟨_, by rw [(Token.char.inj (List.cons.inj h).1)]⟩
  | case7 d rest hb hbo ho =>
      rw [tokenize.eq_5 d rest hb hbo ho] at h
      exact ⟨_, by rw [(Token.char.inj (List.cons.inj h).1)]⟩

/-- Neutral texts bring no brace to the beginning that was not there. -/
theorem eq_brace_of_filled {more : List Char} (hs : '\\' ∉ s)
    (hneutral : ∀ r, .ref r ∈ tokenize s → NeutralText (text r))
    (h : filled text (tokenize s) = '{' :: more) : ∃ rest, s = '{' :: rest := by
  cases htokens : tokenize s with
  | nil =>
      rw [htokens] at h
      cases h
  | cons token ts =>
      rw [htokens] at h hneutral
      cases token with
      | char c =>
          obtain rfl : c = '{' := (List.cons.inj h).1
          exact eq_cons_of_tokenize hs htokens
      | ref r =>
          have hr : NeutralText (text r) := hneutral r List.mem_cons_self
          obtain ⟨c, word, hword⟩ := List.exists_cons_of_ne_nil hr.ne_nil
          rw [filled_ref, hword] at h
          obtain rfl : c = '{' := (List.cons.inj h).1
          exact absurd (hword ▸ List.mem_cons_self) hr.no_brace

theorem no_backslash_after {rest inner after : List Char}
    (hcut : Text.cutAt '}' rest = some (inner, after)) (h : '\\' ∉ '$' :: '{' :: rest) :
    '\\' ∉ after := by
  rw [(Text.eq_of_cutAt hcut).1] at h
  simp only [List.mem_cons, List.mem_append, not_or] at h
  exact h.2.2.2.2

/-- With neutral texts in place of the references nothing is left but literal text. -/
theorem tokenize_filled (hs : '\\' ∉ s)
    (hneutral : ∀ r, .ref r ∈ tokenize s → NeutralText (text r)) :
    tokenize (filled text (tokenize s)) = literally (filled text (tokenize s)) := by
  induction s using tokenize.induct with
  | case1 => simp
  | case2 rest _ => simp at hs
  | case3 rest _ => simp at hs
  | case4 rest hcut =>
      -- the template ends in an opening that nothing closes, and so does the final text
      rw [tokenize_unclosed hcut, filled_literally, tokenize_unclosed hcut]
  | case5 rest inner after hcut _ r hinner ih =>
      rw [tokenize_closed hcut hinner] at hneutral ⊢
      have hr : NeutralText (text r) := hneutral r List.mem_cons_self
      have hlater : ∀ r, .ref r ∈ tokenize after → NeutralText (text r) :=
        fun r hmem => hneutral r (List.mem_cons_of_mem _ hmem)
      rw [filled_ref, tokenize_unmarked_append hr.no_backslash hr.no_dollar,
        ih (no_backslash_after hcut hs) hlater, literally_append]
  | case6 rest inner after hcut _ hinner ih =>
      -- the braces hold no reference, and they hold the same in the final text
      have hread := tokenize_no_reference (Text.eq_of_cutAt hcut).2 hinner
      have hsource : '$' :: '{' :: rest = Reference.written inner ++ after := by
        rw [(Text.eq_of_cutAt hcut).1]
        simp [Reference.written]
      have hafter := no_backslash_after hcut hs
      rw [hsource, hread] at hneutral ⊢
      rw [filled_append, filled_literally, hread,
        ih hafter fun r hmem => hneutral r (List.mem_append_right _ hmem), literally_append]
  | case7 c rest hb hbo ho ih =>
      obtain ⟨hc, hrest⟩ := List.ne_and_not_mem_of_not_mem_cons hs
      rw [tokenize.eq_5 c rest hb hbo ho] at hneutral ⊢
      have hlater : ∀ r, .ref r ∈ tokenize rest → NeutralText (text r) :=
        fun r hmem => hneutral r (List.mem_cons_of_mem _ hmem)
      have hopen : c = '$' → ∀ more, filled text (tokenize rest) ≠ '{' :: more := by
        intro hdollar more hmore
        obtain ⟨behind, rfl⟩ := eq_brace_of_filled hrest hlater hmore
        exact ho behind hdollar rfl
      rw [filled_char, tokenize_plain hc.symm hopen, ih hrest hlater, literally_cons]

end Reading

/-- **No reference is left.**  A template without backslashes whose references all have values with
neutral texts is rendered alike under both policies.  Read as a template, the final text holds no
reference, and rendering it again, from whatever is known then, gives the same text. -/
theorem render_leaves_no_reference {s : String} {lookup : String → Option Value}
    (hs : '\\' ∉ s.toList)
    (h : ∀ r ∈ (parse s).references, ∃ v, lookup r.path = some v ∧ NeutralText (r.present v)) :
    ∃ text, (∀ policy, render lookup policy (parse s) = .ok text) ∧
      (parse (String.ofList text)).references = [] ∧
      ∀ next policy, render next policy (parse (String.ofList text)) = .ok text := by
  let known (r : Reference) : List Char := ((lookup r.path).map r.present).getD []
  have hknown : ∀ r ∈ (parse s).references, (∀ policy, r.render lookup policy = .ok (known r)) ∧
      NeutralText (known r) := by
    intro r hr
    obtain ⟨v, hfound, hneutral⟩ := h r hr
    have htext : known r = r.present v := by simp [known, hfound]
    rw [htext]
    exact ⟨fun policy => by simp [Reference.render, hfound], hneutral⟩
  have hread : tokenize (filled known (tokenize s.toList))
      = literally (filled known (tokenize s.toList)) :=
    tokenize_filled hs fun r hr => (hknown r (mem_references_of_mem_tokenize hr)).2
  refine ⟨filled known (tokenize s.toList), fun policy => ?_, ?_⟩
  · rw [render_eq_filled fun r hr => (hknown r hr).1 policy, parse, tokens_join]
  · rw [parse, String.toList_ofList, hread]
    exact ⟨references_join_literally _, fun next policy => render_join_literally next policy _⟩

/-- Neutral texts are not empty: an empty one would let the signs around it meet. -/
example : (render (Dict.get? [("x", .text "")]) .passThrough (parse "$${x}{y}")).toOption
    = some "${y}".toList := by decide +kernel

/-- A dollar sign before a reference and a brace behind it, braces around no reference, and an
opening that nothing closes: the value comes between the first two, and the rest stays literal. -/
theorem render_leaves_no_reference_splitOpening :
    ∃ text, (∀ policy, render (Dict.get? [("x", .text "v\x7d")]) policy
        (parse "$${x}{y} ${a b} $\x7bx") = .ok text) ∧
      (parse (String.ofList text)).references = [] := by
  have hrefs : (parse "$${x}{y} ${a b} $\x7bx").references = [⟨"x", none, "${x}".toList⟩] := by
    decide +kernel
  have hresolved : ∀ r ∈ (parse "$${x}{y} ${a b} $\x7bx").references,
      ∃ v, Dict.get? [("x", .text "v\x7d")] r.path = some v ∧ NeutralText (r.present v) := by
    intro r hr
    obtain rfl := List.mem_singleton.1 (hrefs ▸ hr)
    exact ⟨.text "v\x7d", rfl, by decide, by decide, by decide, by decide⟩
  obtain ⟨text, hrender, hnone, -⟩ := render_leaves_no_reference (by decide) hresolved
  exact ⟨text, hrender, hnone⟩

end Template

end Planwright
