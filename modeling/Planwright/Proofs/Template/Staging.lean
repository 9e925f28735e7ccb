import Planwright.Planning.Instantiate
import Planwright.Proofs.Template.Writing

set_option autoImplicit false

/-!
# Filling a template in two stages

Entities are filled in when a recipe is planned, and the rest of the references when it is run.
Between the two stages the template is text again.  What that text should denote is the *expansion*
of the template: the references that are known replaced by literal text, all else kept.

The text denotes the expansion exactly if no loose opening in it does harm
(`parse_substituteText_iff`).  Where it does, the references that are left are the ones that
were not known, and the second stage gives what one stage with both lookups would have given.
-/

namespace Planwright

/-- A part of a template with its reference replaced by literal text, if the lookup knows it. -/
def Segment.fill (lookup : String → Option Value) : Segment → Segment
  | .literal t => .literal t
  | .reference r =>
    match lookup r.path with
    | some v => .literal (r.present v)
    | none => .reference r

namespace Template

/-- The template with the references that the lookup knows replaced by literal text. -/
def expand (lookup : String → Option Value) (t : Template) : Template :=
  t.map (Segment.fill lookup)

/-- The template with neighbouring literals joined and empty ones dropped. -/
def merge : Template → Template
  | [] => []
  | .reference r :: rest => .reference r :: merge rest
  | .literal [] :: rest => merge rest
  | .literal (c :: t) :: rest =>
    match merge rest with
    | .literal u :: more => .literal (c :: t ++ u) :: more
    | more => .literal (c :: t) :: more

/-! ## Merging -/

/-- Joining literal characters to what stands behind them. -/
theorem join_literally_append (c : Char) (t : List Char) (ts : List Token) :
    join (literally (c :: t) ++ ts) =
      match join ts with
      | .literal u :: more => .literal (c :: t ++ u) :: more
      | more => .literal (c :: t) :: more := by
  induction t generalizing c with
  | nil =>
      rw [literally_cons, literally_nil, List.cons_append, List.nil_append, join]
      cases join ts with
      | nil => rfl
      | cons p more => cases p <;> rfl
  | cons d t ih =>
      rw [literally_cons, List.cons_append, join, ih d]
      cases join ts with
      | nil => rfl
      | cons p more => cases p <;> rfl

/-- Merging joins the tokens of all parts. -/
theorem merge_eq_join (t : Template) : merge t = join (t.flatMap Segment.tokens) := by
  fun_induction merge t with
  | case1 => rfl
  | case2 r rest ih => simp [Segment.tokens, join, ih]
  | case3 rest ih => simpa [Segment.tokens] using ih
  | case4 c t rest u more hmerge ih =>
      rw [List.flatMap_cons, Segment.tokens, join_literally_append, ← ih, hmerge]
  | case5 c t rest hmerge ih =>
      rw [List.flatMap_cons, Segment.tokens, join_literally_append, ← ih]
      split
      · rename_i u more' heq
        exact absurd heq (hmerge u more')
      · rfl

theorem references_merge (t : Template) : (merge t).references = references t := by
  fun_induction merge t with
  | case1 => rfl
  | case2 r rest ih => simpa [references] using ih
  | case3 rest ih => simpa [references] using ih
  | case4 c t rest u more hmerge ih => simpa [references, hmerge] using ih
  | case5 c t rest hmerge ih => simpa [references] using ih

/-! ## Rendering -/

section Rendering

variable (lookup next : String → Option Value) (policy : UnresolvedPolicy)

theorem render_literal (t : List Char) (rest : Template) :
    render lookup policy (.literal t :: rest) = (render lookup policy rest).map (t ++ ·) := by
  rw [render]
  cases render lookup policy rest <;> rfl

theorem render_reference (r : Reference) (rest : Template) :
    render lookup policy (.reference r :: rest) =
      (r.render lookup policy).bind fun head => (render lookup policy rest).map (head ++ ·) := by
  rw [render]
  cases r.render lookup policy with
  | error f => rfl
  | ok head => cases render lookup policy rest <;> rfl

theorem render_merge (t : Template) : render lookup policy (merge t) = render lookup policy t := by
  fun_induction merge t with
  | case1 => rfl
  | case2 r rest ih => rw [render_reference, render_reference, ih]
  | case3 rest ih =>
      rw [render_literal, ih]
      cases render lookup policy rest <;> rfl
  | case4 c t rest u more hmerge ih =>
      rw [hmerge, render_literal] at ih
      rw [render_literal, render_literal, ← ih]
      cases render lookup policy more with
      | error f => rfl
      | ok tail => simp [Except.map]
  | case5 c t rest hmerge ih => rw [render_literal, render_literal, ih]

/-- Rendering an expansion looks up in two places, the one that was expanded with first. -/
theorem render_expand (t : Template) :
    render next policy (expand lookup t)
      = render (fun path => (lookup path).or (next path)) policy t := by
  induction t with
  | nil => rfl
  | cons part rest ih =>
      unfold expand at ih
      cases part with
      | literal t => rw [expand, List.map_cons, Segment.fill, render_literal, render_literal, ih]
      | reference r =>
          rw [expand, List.map_cons, Segment.fill, render_reference]
          cases hfound : lookup r.path with
          | none =>
              rw [render_reference, ih]
              simp [Reference.render, hfound]
          | some v =>
              rw [render_literal, ih]
              simp [Reference.render, hfound, Except.bind]

end Rendering

/-! ## The two stages -/

variable (lookup : String → Option Value)

theorem references_expand (t : Template) :
    references (expand lookup t) = (references t).filter fun r => (lookup r.path).isNone := by
  induction t with
  | nil => rfl
  | cons part rest ih =>
      unfold expand references at ih
      cases part with
      | literal t => simpa [expand, references, Segment.fill] using ih
      | reference r =>
          cases hfound : lookup r.path with
          | none => simpa [expand, references, Segment.fill, hfound] using ih
          | some v => simpa [expand, references, Segment.fill, hfound] using ih

/-- Substitution writes the expansion. -/
theorem substitute_eq (t : Template) :
    substitute lookup t = Glyph.textAll (Glyph.ofTemplate (expand lookup t)) := by
  induction t with
  | nil => rfl
  | cons part rest ih =>
      have hcons : Glyph.ofTemplate (expand lookup (part :: rest))
          = Glyph.ofSegment (part.fill lookup) ++ Glyph.ofTemplate (expand lookup rest) := rfl
      rw [hcons, Glyph.textAll_append, ← ih]
      cases part with
      | literal t => rw [substitute, Segment.fill, Glyph.ofSegment, Glyph.textAll_ofLiteral]
      | reference r =>
          rw [substitute, Segment.fill, Reference.substitute]
          cases lookup r.path with
          | none => simp [Glyph.ofSegment, Glyph.text]
          | some v => simp [Glyph.ofSegment, Glyph.textAll_ofLiteral]

theorem tokensAll_ofTemplate (t : Template) :
    Glyph.tokensAll (Glyph.ofTemplate t) = t.flatMap Segment.tokens := by
  induction t with
  | nil => rfl
  | cons part rest ih =>
      have hcons : Glyph.ofTemplate (part :: rest)
          = Glyph.ofSegment part ++ Glyph.ofTemplate rest := rfl
      rw [hcons, Glyph.tokensAll_append, ih, List.flatMap_cons]
      cases part with
      | literal t => rw [Glyph.ofSegment, Glyph.tokensAll_ofLiteral, Segment.tokens]
      | reference r => rfl

/-- The expansion of a parsed template is written with sound glyphs only: the references that are
left were read from its text. -/
theorem sound_of_mem_expand {s : String} {g : Glyph}
    (h : g ∈ Glyph.ofTemplate (expand lookup (parse s))) : g.Sound := by
  obtain ⟨filled, hfilled, hg⟩ := List.mem_flatMap.1 h
  obtain ⟨part, hpart, rfl⟩ := List.mem_map.1 hfilled
  cases part with
  | literal t => exact Glyph.sound_of_mem_ofLiteral hg
  | reference r =>
      rw [Segment.fill] at hg
      split at hg
      · exact Glyph.sound_of_mem_ofLiteral hg
      · obtain rfl := List.mem_singleton.1 hg
        exact isWritten_of_mem_parse hpart

/-- The text that substitution gives denotes the expansion exactly if its loose openings are
harmless. -/
theorem parse_substituteText_iff (s : String) :
    parse (Value.substituteText lookup s) = merge (expand lookup (parse s)) ↔
      Glyph.Harmless (Glyph.ofTemplate (expand lookup (parse s))) := by
  rw [← Glyph.tokenize_textAll_iff fun g => sound_of_mem_expand lookup, tokensAll_ofTemplate,
    ← substitute_eq, merge_eq_join, ← join_inj]
  simp [parse, Value.substituteText]

/-- **Staged substitution.**  Filling in what one lookup knows, writing the result down, reading it
again and filling in the rest is safe exactly if no loose opening does harm.  Safe means: what is
read is the expansion, the references that are left are those that were not known, in their order,
and rendering them from a second lookup gives what rendering once from both would give. -/
theorem staged_substitution_safe_iff (s : String) :
    (parse (Value.substituteText lookup s) = merge (expand lookup (parse s)) ∧
      (parse (Value.substituteText lookup s)).references
        = (parse s).references.filter (fun r => (lookup r.path).isNone) ∧
      ∀ (next : String → Option Value) (policy : UnresolvedPolicy),
        render next policy (parse (Value.substituteText lookup s))
          = render (fun path => (lookup path).or (next path)) policy (parse s)) ↔
      Glyph.Harmless (Glyph.ofTemplate (expand lookup (parse s))) := by
  rw [← parse_substituteText_iff]
  constructor
  · exact fun h => h.1
  · intro h
    refine ⟨h, ?_, ?_⟩
    · rw [h, references_merge, references_expand]
    · intro next policy
      rw [h, render_merge, render_expand]

/-- The value `{y}` completes the `$` before it: what is read is a reference that the template does
not have, where the expansion is literal text. -/
theorem value_completes_opening :
    parse (Value.substituteText (Dict.get? [("x", .text "{y}")]) "$${x}")
        ≠ merge (expand (Dict.get? [("x", .text "{y}")]) (parse "$${x}")) ∧
      parse (Value.substituteText (Dict.get? [("x", .text "{y}")]) "$${x}")
        = [.reference ⟨"y", none, "${y}".toList⟩] ∧
      merge (expand (Dict.get? [("x", .text "{y}")]) (parse "$${x}"))
        = [.literal "${y}".toList] := by
  refine ⟨?_, ?_, ?_⟩ <;> decide +kernel

end Template

end Planwright
