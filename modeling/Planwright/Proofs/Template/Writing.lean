import Planwright.Proofs.Template.Tokens

set_option autoImplicit false

/-!
# Reading what was written

A template is written part by part: literal text is escaped, and a reference is put down as it
was read.  What is written consists of *glyphs*, each standing for tokens of its own.  This file
says exactly when the reader gives those tokens back (`tokenize_text_iff`).

Escaping guards every opening `${` inside one part.  It cannot see an opening that two parts form
together, one ending in `$` and the next beginning with `{`.  Such an opening is *loose*; it does
no harm only where what follows it would have been literal text in any case.
-/

namespace Planwright

/-- The smallest parts of a written template. -/
inductive Glyph where
  /-- a character put down as it is -/
  | plain (c : Char)
  /-- a backslash, doubled -/
  | backslash
  /-- an opening `${`, guarded by a backslash -/
  | opening
  | reference (r : Reference)
  deriving DecidableEq, Repr, Inhabited

namespace Glyph

/-- The text of a glyph. -/
def text : Glyph → List Char
  | .plain c => [c]
  | .backslash => ['\\', '\\']
  | .opening => ['\\', '$', '{']
  | .reference r => r.raw

/-- What a glyph stands for. -/
def tokens : Glyph → List Token
  | .plain c => [.char c]
  | .backslash => [.char '\\']
  | .opening => [.char '$', .char '{']
  | .reference r => [.ref r]

/-- No backslash is put down as it is, and references stand for themselves. -/
def Sound : Glyph → Prop
  | .plain c => c ≠ '\\'
  | .backslash | .opening => True
  | .reference r => r.IsWritten

/-- The text of several glyphs. -/
def textAll (gs : List Glyph) : List Char := gs.flatMap text

/-- What several glyphs stand for. -/
def tokensAll (gs : List Glyph) : List Token := gs.flatMap tokens

/-- The glyphs of literal text. -/
def ofLiteral : List Char → List Glyph
  | [] => []
  | '\\' :: rest => .backslash :: ofLiteral rest
  | '$' :: '{' :: rest => .opening :: ofLiteral rest
  | c :: rest => .plain c :: ofLiteral rest

/-- The glyphs of a part of a template. -/
def ofSegment : Segment → List Glyph
  | .literal t => ofLiteral t
  | .reference r => [.reference r]

/-- The glyphs of a template. -/
def ofTemplate (t : Template) : List Glyph := t.flatMap ofSegment

/-! ## Literal text -/

@[simp] theorem textAll_nil : textAll [] = [] := rfl

@[simp] theorem textAll_cons (g : Glyph) (gs : List Glyph) :
    textAll (g :: gs) = g.text ++ textAll gs := rfl

@[simp] theorem tokensAll_nil : tokensAll [] = [] := rfl

@[simp] theorem tokensAll_cons (g : Glyph) (gs : List Glyph) :
    tokensAll (g :: gs) = g.tokens ++ tokensAll gs := rfl

theorem textAll_append (gs hs : List Glyph) : textAll (gs ++ hs) = textAll gs ++ textAll hs :=
  List.flatMap_append

theorem tokensAll_append (gs hs : List Glyph) :
    tokensAll (gs ++ hs) = tokensAll gs ++ tokensAll hs :=
  List.flatMap_append

theorem textAll_plain (run : List Char) : textAll (run.map .plain) = run := by
  induction run with
  | nil => rfl
  | cons c run ih => simp [text, ih]

theorem tokensAll_plain (run : List Char) :
    tokensAll (run.map .plain) = Template.literally run := by
  induction run with
  | nil => rfl
  | cons c run ih => simp [tokens, ih]

/-- Escaping writes the glyphs of literal text. -/
theorem textAll_ofLiteral (t : List Char) : textAll (ofLiteral t) = Template.escape t := by
  fun_induction ofLiteral t with
  | case1 => rfl
  | case2 rest ih => simp [Template.escape, text, ih]
  | case3 rest ih => simp [Template.escape, text, ih]
  | case4 c rest hb ho ih => rw [Template.escape.eq_4 c rest hb ho]; simp [text, ih]

theorem tokensAll_ofLiteral (t : List Char) : tokensAll (ofLiteral t) = Template.literally t := by
  fun_induction ofLiteral t with
  | case1 => rfl
  | case2 rest ih => simp [tokens, ih]
  | case3 rest ih => simp [tokens, ih]
  | case4 c rest hb ho ih => simp [tokens, ih]

theorem sound_of_mem_ofLiteral {t : List Char} {g : Glyph} (h : g ∈ ofLiteral t) : g.Sound := by
  fun_induction ofLiteral t with
  | case1 => cases h
  | case2 rest ih =>
      cases h with
      | head => trivial
      | tail _ h => exact ih h
  | case3 rest ih =>
      cases h with
      | head => trivial
      | tail _ h => exact ih h
  | case4 c rest hb ho ih =>
      cases h with
      | head => exact hb
      | tail _ h => exact ih h

/-! ## Loose openings -/

/-- The glyphs begin with an opening that nothing guards. -/
def LooseAt : List Glyph → Prop
  | .plain '$' :: .plain '{' :: _ => True
  | _ => False

theorem looseAt_iff {gs : List Glyph} :
    LooseAt gs ↔ ∃ rest, gs = .plain '$' :: .plain '{' :: rest := by
  constructor
  · intro h
    unfold LooseAt at h
    split at h
    · exact ⟨_, rfl⟩
    · exact h.elim
  · rintro ⟨rest, rfl⟩
    trivial

/-- Every loose opening that the reader comes to leads to no reference, and up to the brace that
closes it, or to the end if none does, all is put down as it is.  What it makes literal text of is
then the text itself; a loose opening inside it is not come to. -/
inductive Harmless : List Glyph → Prop where
  | nil : Harmless []
  /-- nothing loose here -/
  | step (g : Glyph) (rest : List Glyph) (guarded : ¬ LooseAt (g :: rest))
      (later : Harmless rest) : Harmless (g :: rest)
  /-- a loose opening that is not closed -/
  | unclosed (run : List Char) (brace : '}' ∉ run) :
      Harmless (.plain '$' :: .plain '{' :: run.map .plain)
  /-- a loose opening that is closed around no reference -/
  | closed (run : List Char) (rest : List Glyph) (brace : '}' ∉ run)
      (noReference : Reference.ofInner? run = none) (later : Harmless rest) :
      Harmless (.plain '$' :: .plain '{' :: (run.map .plain ++ .plain '}' :: rest))

/-! ## What the reader makes of glyphs -/

/-- Only a brace put down as it is begins with a brace. -/
theorem eq_plain_of_textAll_eq_brace {gs : List Glyph} {more : List Char}
    (hsound : ∀ g ∈ gs, g.Sound) (h : textAll gs = '{' :: more) :
    ∃ rest, gs = .plain '{' :: rest := by
  cases gs with
  | nil => simp at h
  | cons g rest =>
      cases g with
      | plain c =>
          simp only [textAll_cons, text, List.cons_append, List.cons.injEq] at h
          exact ⟨rest, by rw [h.1]⟩
      | backslash => simp [text] at h
      | opening => simp [text] at h
      | reference r =>
          obtain ⟨inner, -, hinner⟩ : r.IsWritten := hsound _ List.mem_cons_self
          simp [text, Reference.raw_of_ofInner? hinner, Reference.written] at h

/-- A glyph that begins no loose opening is read as what it stands for. -/
theorem tokenize_textAll_cons {g : Glyph} {rest : List Glyph} (hsound : ∀ h ∈ g :: rest, h.Sound)
    (hloose : ¬ LooseAt (g :: rest)) :
    Template.tokenize (textAll (g :: rest)) = g.tokens ++ Template.tokenize (textAll rest) := by
  have hg : g.Sound := hsound g List.mem_cons_self
  have hrest : ∀ h ∈ rest, h.Sound := fun h hmem => hsound h (List.mem_cons_of_mem g hmem)
  cases g with
  | backslash => exact Template.tokenize_backslash _
  | opening => exact Template.tokenize_opening _
  | reference r => exact Template.tokenize_raw hg _
  | plain c =>
      refine Template.tokenize_plain hg ?_
      intro hc more hmore
      obtain ⟨after, rfl⟩ := eq_plain_of_textAll_eq_brace hrest hmore
      subst hc
      exact hloose trivial

/-- Where every loose opening is harmless, the reader gives back what was meant. -/
theorem Harmless.tokenize_textAll {gs : List Glyph} (h : Harmless gs)
    (hsound : ∀ g ∈ gs, g.Sound) :
    Template.tokenize (textAll gs) = tokensAll gs := by
  induction h with
  | nil => exact Template.tokenize_nil
  | step g rest hguarded _ ih =>
      rw [tokenize_textAll_cons hsound hguarded, tokensAll_cons,
        ih fun h hmem => hsound h (List.mem_cons_of_mem g hmem)]
  | unclosed run hbrace =>
      simp only [textAll_cons, tokensAll_cons, textAll_plain, tokensAll_plain, text, tokens]
      exact Template.tokenize_unclosed (Text.cutAt_eq_none_iff.2 hbrace)
  | closed run rest hbrace hnone _ ih =>
      have hread := Template.tokenize_no_reference hbrace hnone (textAll rest)
      rw [ih fun g hg => hsound g (by simp [hg])] at hread
      simpa [textAll_append, tokensAll_append, textAll_plain, tokensAll_plain, text, tokens,
        Reference.written] using hread

/-- Once one backslash too many has been read, nothing makes up for it: every doubled backslash that
follows adds another. -/
theorem backslashes_append_swallow_ne (n : Nat) {gs : List Glyph} (hsound : ∀ g ∈ gs, g.Sound) :
    List.replicate (n + 1) (.char '\\') ++ Template.swallow (textAll gs) ≠ tokensAll gs := by
  induction gs generalizing n with
  | nil => simp
  | cons g rest ih =>
      have hg : g.Sound := hsound g List.mem_cons_self
      have hrest : ∀ h ∈ rest, h.Sound := fun h hmem => hsound h (List.mem_cons_of_mem g hmem)
      intro h
      cases g with
      | plain c =>
          simp only [tokensAll_cons, tokens, List.replicate_succ, List.cons_append,
            List.cons.injEq, Token.char.injEq] at h
          exact hg h.1.symm
      | opening => simp [tokens, List.replicate_succ] at h
      | reference r => simp [tokens, List.replicate_succ] at h
      | backslash =>
          refine ih (n + 1) hrest ?_
          simp only [textAll_cons, text, tokensAll_cons, tokens, List.cons_append,
            List.nil_append, Template.swallow, List.replicate_succ, List.cons.injEq] at h
          rw [← h.2, List.replicate_succ', List.replicate_succ']
          simp

/-- If what is read after an opening without a reference is what was meant, then all was put down
as it is, up to the closing brace or to the end. -/
theorem plain_of_swallow_eq {gs : List Glyph} (hsound : ∀ g ∈ gs, g.Sound)
    (h : Template.swallow (textAll gs) = tokensAll gs) :
    ∃ run : List Char, '}' ∉ run ∧ (gs = run.map .plain ∨
      ∃ rest, gs = run.map .plain ++ .plain '}' :: rest ∧
        Template.tokenize (textAll rest) = tokensAll rest) := by
  induction gs with
  | nil => exact ⟨[], by simp, .inl rfl⟩
  | cons g rest ih =>
      have hg : g.Sound := hsound g List.mem_cons_self
      have hrest : ∀ h ∈ rest, h.Sound := fun h hmem => hsound h (List.mem_cons_of_mem g hmem)
      cases g with
      | plain c =>
          by_cases hc : c = '}'
          · subst hc
            refine ⟨[], by simp, .inr ⟨rest, rfl, ?_⟩⟩
            simpa [text, tokens, Template.swallow] using h
          · have hlater : Template.swallow (textAll rest) = tokensAll rest := by
              simpa [text, tokens, Template.swallow, hc] using h
            obtain ⟨run, hbrace, hform⟩ := ih hrest hlater
            refine ⟨c :: run, by simp [hbrace, Ne.symm hc], ?_⟩
            rcases hform with rfl | ⟨after, rfl, hafter⟩
            · exact .inl rfl
            · exact .inr ⟨after, rfl, hafter⟩
      | backslash =>
          exfalso
          refine backslashes_append_swallow_ne 0 hrest ?_
          simpa [text, tokens, Template.swallow] using h
      | opening => simp [text, tokens, Template.swallow] at h
      | reference r =>
          obtain ⟨inner, -, hinner⟩ : r.IsWritten := hg
          simp [text, tokens, Template.swallow, Reference.raw_of_ofInner? hinner,
            Reference.written] at h

/-- A loose opening that is read as what was meant leads to no reference. -/
theorem swallow_eq_of_tokenize_eq {w : List Char} {ts : List Token}
    (h : Template.tokenize ('$' :: '{' :: w) = .char '$' :: .char '{' :: ts) :
    (∀ inner after, Text.cutAt '}' w = some (inner, after) →
      Reference.ofInner? inner = none) ∧ Template.swallow w = ts := by
  have hnone : ∀ inner after, Text.cutAt '}' w = some (inner, after) →
      Reference.ofInner? inner = none := by
    intro inner after hcut
    cases hinner : Reference.ofInner? inner with
    | none => rfl
    | some r =>
        rw [Template.tokenize_closed hcut hinner] at h
        cases h
  rw [Template.tokenize_malformed hnone] at h
  exact ⟨hnone, by simpa using h⟩

/-- If the reader gives back what was meant, every loose opening is harmless. -/
theorem harmless_of_tokenize_textAll {gs : List Glyph} (hsound : ∀ g ∈ gs, g.Sound)
    (h : Template.tokenize (textAll gs) = tokensAll gs) : Harmless gs := by
  -- what follows a closed loose opening is no direct part of the list: induction on the length
  induction hlength : gs.length using Nat.strongRecOn generalizing gs with
  | ind n ih =>
      cases gs with
      | nil => exact .nil
      | cons g rest =>
          by_cases hloose : LooseAt (g :: rest)
          · obtain ⟨later, heq⟩ := looseAt_iff.1 hloose
            obtain ⟨rfl, rfl⟩ := List.cons.inj heq
            have hlater : ∀ h ∈ later, h.Sound := fun h hmem => hsound h (by simp [hmem])
            obtain ⟨hnone, hswallow⟩ := swallow_eq_of_tokenize_eq h
            obtain ⟨run, hbrace, rfl | ⟨after, rfl, hafter⟩⟩ := plain_of_swallow_eq hlater hswallow
            · exact .unclosed run hbrace
            · have hcut : Text.cutAt '}' (textAll (run.map .plain ++ .plain '}' :: after))
                  = some (run, textAll after) := by
                rw [textAll_append, textAll_plain]
                exact Text.cutAt_append hbrace _
              refine .closed run after hbrace (hnone _ _ hcut) ?_
              exact ih after.length (by simp at hlength; omega)
                (fun h hmem => hlater h (by simp [hmem])) hafter rfl
          · rw [tokenize_textAll_cons hsound hloose, tokensAll_cons,
              List.append_cancel_left_eq] at h
            refine .step g rest hloose (ih rest.length (by simp at hlength; omega) ?_ h rfl)
            exact fun h hmem => hsound h (List.mem_cons_of_mem g hmem)

/-- The reader gives back what was meant exactly if every loose opening is harmless. -/
theorem tokenize_textAll_iff {gs : List Glyph} (hsound : ∀ g ∈ gs, g.Sound) :
    Template.tokenize (textAll gs) = tokensAll gs ↔ Harmless gs :=
  ⟨harmless_of_tokenize_textAll hsound, fun h => h.tokenize_textAll hsound⟩

end Glyph

end Planwright
