import Planwright.Context
import Planwright.Proofs.Fallible
import Planwright.Proofs.Template.Staging

set_option autoImplicit false

/-!
# Texts that are written again

Where nothing is known, substitution writes a template as it is.  The text may change, since literal
text is escaped, but what it denotes does not (`parse_restated`), and writing it yet again changes
nothing more (`restated_restated`).

Literal text alone is written by escaping, is read without references (`references_escapeString`)
and is rendered to itself in every context (`Context.render_escapeString`).
-/

namespace Planwright

namespace Glyph

/-- Literal text has no loose opening, unless what stands behind it completes one. -/
theorem harmless_ofLiteral_append {gs : List Glyph} (h : Harmless gs)
    (hbrace : ∀ rest, gs ≠ .plain '{' :: rest) (t : List Char) : Harmless (ofLiteral t ++ gs) := by
  fun_induction ofLiteral t with
  | case1 => exact h
  | case2 rest ih => exact .step _ _ (fun hloose => hloose) ih
  | case3 rest ih => exact .step _ _ (fun hloose => hloose) ih
  | case4 c rest _ hopen ih =>
      refine .step _ _ (fun hloose => ?_) ih
      obtain ⟨more, hglyphs⟩ := looseAt_iff.1 hloose
      obtain ⟨hc, hbehind⟩ := List.cons.inj hglyphs
      obtain rfl : c = '$' := Glyph.plain.inj hc
      cases rest with
      | nil => exact hbrace more hbehind
      | cons d rest =>
          by_cases hd : d = '{'
          · exact hopen rest rfl (by rw [hd])
          · rw [ofLiteral.eq_def] at hbehind
            split at hbehind <;> simp_all

end Glyph

namespace Template

/-- No two literals are neighbours. -/
inductive Separated : Template → Prop where
  | nil : Separated []
  | reference (r : Reference) {rest : Template} (later : Separated rest) :
      Separated (.reference r :: rest)
  | literal (t : List Char) {rest : Template} (later : Separated rest)
      (next : ∀ u more, rest ≠ .literal u :: more) : Separated (.literal t :: rest)

theorem separated_join (ts : List Token) : Separated (join ts) := by
  fun_induction join ts with
  | case1 => exact .nil
  | case2 r ts ih => exact .reference r ih
  | case3 c ts t rest hjoin ih =>
      rw [hjoin] at ih
      cases ih with
      | literal _ later next => exact .literal (c :: t) later next
  | case4 c ts hjoin ih => exact .literal [c] ih hjoin

theorem Separated.harmless {t : Template} (h : Separated t) :
    Glyph.Harmless (Glyph.ofTemplate t) := by
  induction h with
  | nil => exact .nil
  | reference r _ ih => exact .step _ _ (fun hloose => hloose) ih
  | @literal t rest _ hnext ih =>
      refine Glyph.harmless_ofLiteral_append ih (fun more hmore => ?_) t
      cases rest with
      | nil => cases hmore
      | cons part rest =>
          cases part with
          | literal u => exact hnext u rest rfl
          | reference r => cases hmore

/-! ## Nothing is known -/

/-- A text as substitution writes it where nothing is known. -/
def restated (s : String) : String := Value.substituteText (fun _ => none) s

theorem expand_none (t : Template) : expand (fun _ => none) t = t := by
  have hfill : Segment.fill (fun _ => none) = id := by
    funext part
    cases part <;> rfl
  rw [expand, hfill, List.map_id]

theorem merge_parse (s : String) : merge (parse s) = parse s := by
  rw [merge_eq_join, parse, tokens_join]

/-- A text that is written again denotes the same template. -/
theorem parse_restated (s : String) : parse (restated s) = parse s := by
  have hread := (parse_substituteText_iff (fun _ => none) s).2
  rw [expand_none, merge_parse] at hread
  exact hread (separated_join _).harmless

theorem restated_restated (s : String) : restated (restated s) = restated s := by
  rw [restated, Value.substituteText, parse_restated]
  rfl

theorem hasReferences_restated (s : String) : hasReferences (restated s) = hasReferences s := by
  rw [hasReferences, hasReferences, parse_restated]

/-! ## Literal text -/

/-- Without backslashes and dollar signs there is nothing to escape. -/
theorem escape_of_unmarked {t : List Char} (hbackslash : '\\' ∉ t) (hdollar : '$' ∉ t) :
    escape t = t := by
  fun_induction escape t with
  | case1 => rfl
  | case2 rest ih => exact absurd List.mem_cons_self hbackslash
  | case3 rest ih => exact absurd List.mem_cons_self hdollar
  | case4 c rest _ _ ih =>
      rw [ih (List.not_mem_of_not_mem_cons hbackslash) (List.not_mem_of_not_mem_cons hdollar)]

theorem parse_escapeString (s : String) :
    parse (escapeString s) = join (literally s.toList) := by
  have hharmless := Glyph.harmless_ofLiteral_append .nil (fun _ h => by cases h) s.toList
  rw [List.append_nil] at hharmless
  have hread := hharmless.tokenize_textAll fun g hg => Glyph.sound_of_mem_ofLiteral hg
  rw [Glyph.textAll_ofLiteral, Glyph.tokensAll_ofLiteral] at hread
  rw [parse, escapeString, String.toList_ofList, hread]

theorem references_join_literally (t : List Char) : references (join (literally t)) = [] := by
  induction t with
  | nil => rfl
  | cons c t ih =>
      rw [literally_cons, join]
      split
      · next u rest hjoin =>
        rw [hjoin] at ih
        exact ih
      · exact ih

/-- Escaped text has no references. -/
theorem references_escapeString (s : String) : (parse (escapeString s)).references = [] := by
  rw [parse_escapeString, references_join_literally]

/-- Texts are escaped one by one, unless an opening begins in one and ends in the next. -/
theorem escape_append {s t : List Char} (h : s.getLast? ≠ some '$' ∨ t.head? ≠ some '{') :
    escape (s ++ t) = escape s ++ escape t := by
  fun_induction escape s with
  | case1 => rfl
  | case2 rest ih =>
      rw [List.cons_append, escape, ih]
      · rfl
      · exact h.imp_left fun hlast heq => hlast (by rw [List.getLast?_cons, heq]; rfl)
  | case3 rest ih =>
      rw [List.cons_append, List.cons_append, escape, ih]
      · rfl
      · refine h.imp_left fun hlast heq => hlast ?_
        rw [List.getLast?_cons_cons, List.getLast?_cons, heq]
        rfl
  | case4 c rest hbackslash hopen ih =>
      have hplain : escape (c :: (rest ++ t)) = c :: escape (rest ++ t) := by
        refine escape.eq_4 c (rest ++ t) hbackslash fun more hc hmore => ?_
        cases rest with
        | nil => exact h.elim (fun hlast => hlast (by rw [hc]; rfl)) (fun hhead => hhead (by
            rw [List.nil_append] at hmore
            rw [hmore]
            rfl))
        | cons d rest =>
            obtain ⟨rfl, -⟩ := List.cons.inj hmore
            exact hopen rest hc rfl
      rw [List.cons_append, hplain, ih, List.cons_append]
      refine h.imp_left fun hlast heq => hlast ?_
      rw [List.getLast?_cons, heq]
      rfl

theorem render_join_literally (lookup : String → Option Value) (policy : UnresolvedPolicy)
    (t : List Char) : render lookup policy (join (literally t)) = .ok t := by
  induction t with
  | nil => rfl
  | cons c t ih =>
      rw [literally_cons, join]
      split
      · next u rest hjoin =>
        rw [hjoin, render_literal] at ih
        obtain ⟨tail, htail, rfl⟩ := Fallible.map_eq_ok.1 ih
        rw [render_literal, htail]
        rfl
      · rw [render_literal, ih]
        rfl

end Template

/-- Escaped text is rendered to itself, whatever the context holds. -/
theorem Context.render_escapeString (c : Context) (policy : UnresolvedPolicy) (s : String) :
    c.render policy (Template.escapeString s) = .ok s := by
  rw [render, Template.parse_escapeString, Template.render_join_literally]
  exact congrArg Except.ok String.ofList_toList

end Planwright
