import Planwright.Proofs.Template.Restating
import Planwright.Proofs.Value.Texts

set_option autoImplicit false

/-!
# Resolving the texts inside a value

Resolving puts the values of a context in the place of the references in every text of a value.
Only the references decide: two contexts that agree on their paths give the same result
(`resolveValue_congr`), so a value without references is resolved alike in all contexts.

The two policies for references that lead nowhere differ only in failing.  If such references are
passed through, resolving never fails.  If they are errors, the first of them is the failure, and
where there is none the result is the same (`resolveValue_error_eq`).

Escaping leaves no references and is undone by resolving (`resolveValue_inert`).
-/

namespace Planwright

open Fallible

/-- The references in the texts inside a value, in their order. -/
def Value.references (v : Value) : List Reference :=
  v.texts.flatMap fun s => (Template.parse s).references

namespace Value

theorem references_list (items : List Value) :
    (Value.list items).references = items.flatMap references := by
  rw [references, texts_list, List.flatMap_assoc]
  rfl

theorem references_object (members : Dict Value) :
    (Value.object members).references = members.flatMap fun m => m.2.references := by
  rw [references, texts_object, List.flatMap_assoc]
  rfl

theorem references_text (s : String) :
    (Value.text s).references = (Template.parse s).references := by
  simp [references, texts]

end Value

/-! ## Templates -/

namespace Template

@[simp] theorem references_literal (u : List Char) (rest : Template) :
    references (.literal u :: rest) = references rest := rfl

@[simp] theorem references_reference (r : Reference) (rest : Template) :
    references (.reference r :: rest) = r :: references rest := rfl

theorem single?_eq_some_iff {t : Template} {path : String} :
    t.single? = some path ↔ ∃ raw, t = [.reference ⟨path, none, raw⟩] := by
  constructor
  · intro h
    unfold single? at h
    split at h
    · next raw => exact ⟨raw, by rw [Option.some.inj h]⟩
    · cases h
  · rintro ⟨raw, rfl⟩
    rfl

/-- A template without references is no reference. -/
theorem single?_eq_none {t : Template} (h : t.references = []) : t.single? = none := by
  cases hsingle : t.single? with
  | none => rfl
  | some path =>
      obtain ⟨raw, rfl⟩ := single?_eq_some_iff.1 hsingle
      simp [references] at h

/-- The first reference of a template that leads nowhere. -/
def unresolved? (lookup : String → Option Value) (t : Template) : Option Reference :=
  t.references.find? fun r => (lookup r.path).isNone

variable (lookup : String → Option Value)

/-- References that lead nowhere are put down as they were written, and nothing fails. -/
theorem exists_render_passThrough (t : Template) :
    ∃ text, render lookup .passThrough t = .ok text := by
  induction t with
  | nil => exact ⟨[], rfl⟩
  | cons part rest ih =>
      obtain ⟨tail, htail⟩ := ih
      cases part with
      | literal u => exact ⟨u ++ tail, by rw [render_literal, htail]; rfl⟩
      | reference r =>
          have hhead : ∃ head, r.render lookup .passThrough = .ok head := by
            unfold Reference.render
            cases lookup r.path with
            | none => exact ⟨r.raw, rfl⟩
            | some v => exact ⟨r.present v, rfl⟩
          obtain ⟨head, hhead⟩ := hhead
          exact ⟨head ++ tail, by rw [render_reference, hhead, htail]; rfl⟩

/-- If they are errors, the first of them is the failure. -/
theorem render_error_eq (t : Template) :
    render lookup .error t
      = blocked ((t.unresolved? lookup).map Reference.unresolved)
          (render lookup .passThrough t) := by
  induction t with
  | nil => rfl
  | cons part rest ih =>
      cases part with
      | literal u => rw [render_literal, render_literal, ih, map_blocked]; rfl
      | reference r =>
          rw [render_reference, render_reference, ih]
          cases hfound : lookup r.path with
          | none => simp [Reference.render, unresolved?, hfound, Except.bind]
          | some v => simp [Reference.render, unresolved?, hfound, Except.bind, map_blocked]

/-- What a template is rendered to depends on the values of its references only. -/
theorem render_congr {lookup other : String → Option Value} (policy : UnresolvedPolicy)
    {t : Template} (h : ∀ r ∈ t.references, lookup r.path = other r.path) :
    render lookup policy t = render other policy t := by
  induction t with
  | nil => rfl
  | cons part rest ih =>
      cases part with
      | literal u => rw [render_literal, render_literal, ih h]
      | reference r =>
          rw [references_reference] at h
          obtain ⟨hhead, hrest⟩ := List.forall_mem_cons.1 h
          have hrender : r.render lookup policy = r.render other policy := by
            unfold Reference.render
            rw [hhead]
          rw [render_reference, render_reference, hrender, ih hrest]

end Template

/-! ## Values -/

namespace Context

variable (c : Context) (policy : UnresolvedPolicy)

theorem resolveItems_eq (items : List Value) :
    c.resolveItems policy items = items.mapM (c.resolveValue policy) := by
  induction items with
  | nil => rfl
  | cons v rest ih => rw [resolveItems, ih, List.mapM_cons]

/-- A member of an object with its value resolved. -/
def resolveMember (m : String × Value) : Except Failure (String × Value) :=
  (c.resolveValue policy m.2).map fun v => (m.1, v)

theorem resolveMembers_eq (members : Dict Value) :
    c.resolveMembers policy members = members.mapM (c.resolveMember policy) := by
  induction members with
  | nil => rfl
  | cons m rest ih => rw [resolveMembers, ih, List.mapM_cons, resolveMember, bind_after_map]

/-- The first reference in a value that leads nowhere. -/
def unresolved? (v : Value) : Option Reference :=
  v.references.find? fun r => (c.resolve r.path).isNone

theorem unresolved?_text (s : String) :
    c.unresolved? (.text s) = (Template.parse s).unresolved? c.resolve := by
  rw [unresolved?, Value.references_text]
  rfl

theorem resolveText_error_eq (s : String) :
    c.resolveText .error s
      = blocked ((c.unresolved? (.text s)).map Reference.unresolved)
          (c.resolveText .passThrough s) := by
  unfold resolveText render
  rw [unresolved?_text, Template.render_error_eq]
  cases hwhole : (Template.parse s).single?.bind c.resolve with
  | none => simp only [map_blocked]
  | some v =>
      obtain ⟨path, hsingle, hfound⟩ := Option.bind_eq_some_iff.1 hwhole
      obtain ⟨raw, hparse⟩ := Template.single?_eq_some_iff.1 hsingle
      have hnone : (Template.parse s).unresolved? c.resolve = none := by
        simp [hparse, Template.unresolved?, Template.references, hfound]
      rw [hnone]
      rfl

theorem exists_resolveText_passThrough (s : String) :
    ∃ v, c.resolveText .passThrough s = .ok v := by
  obtain ⟨text, htext⟩ := Template.exists_render_passThrough c.resolve (Template.parse s)
  unfold resolveText render
  rw [htext]
  cases (Template.parse s).single?.bind c.resolve with
  | none => exact ⟨_, rfl⟩
  | some v => exact ⟨v, rfl⟩

theorem exists_resolveMember {m : String × Value} (h : ∃ u, c.resolveValue policy m.2 = .ok u) :
    ∃ u, c.resolveMember policy m = .ok u := by
  obtain ⟨u, hu⟩ := h
  exact ⟨(m.1, u), map_eq_ok.2 ⟨u, hu, rfl⟩⟩

/-- Where references that lead nowhere are passed through, resolving never fails. -/
theorem exists_resolveValue_passThrough (v : Value) :
    ∃ u, c.resolveValue .passThrough v = .ok u := by
  induction v using Value.induction with
  | text s => exact c.exists_resolveText_passThrough s
  | list items ih =>
      obtain ⟨us, hus⟩ := exists_mapM_eq_ok ih
      exact ⟨.list us, by rw [resolveValue, resolveItems_eq, hus]; rfl⟩
  | object members ih =>
      obtain ⟨us, hus⟩ := exists_mapM_eq_ok fun m hm =>
        c.exists_resolveMember .passThrough (ih m hm)
      exact ⟨.object us, by rw [resolveValue, resolveMembers_eq, hus]; rfl⟩
  | _ => exact ⟨_, rfl⟩

/-- Where they are errors, the first of them is the failure, and if there is none they might as well
be passed through. -/
theorem resolveValue_error_eq (v : Value) :
    c.resolveValue .error v
      = blocked ((c.unresolved? v).map Reference.unresolved) (c.resolveValue .passThrough v) := by
  induction v using Value.induction with
  | text s => exact c.resolveText_error_eq s
  | list items ih =>
      have hitems := mapM_blocked ih fun v _ => c.exists_resolveValue_passThrough v
      rw [resolveValue, resolveValue, resolveItems_eq, resolveItems_eq, hitems, map_blocked,
        unresolved?, Value.references_list, List.find?_flatMap, List.map_findSome?]
      rfl
  | object members ih =>
      have hmember : ∀ m ∈ members, c.resolveMember .error m
          = blocked ((c.unresolved? m.2).map Reference.unresolved)
              (c.resolveMember .passThrough m) := by
        intro m hm
        rw [resolveMember, ih m hm, map_blocked]
        rfl
      have hmembers := mapM_blocked hmember fun m _ =>
        c.exists_resolveMember .passThrough (c.exists_resolveValue_passThrough m.2)
      rw [resolveValue, resolveValue, resolveMembers_eq, resolveMembers_eq, hmembers, map_blocked,
        unresolved?, Value.references_object, List.find?_flatMap, List.map_findSome?]
      rfl
  | _ => rfl

/-! ## What decides -/

theorem resolveText_congr {c d : Context} (policy : UnresolvedPolicy) {s : String}
    (h : ∀ r ∈ (Template.parse s).references, c.resolve r.path = d.resolve r.path) :
    c.resolveText policy s = d.resolveText policy s := by
  have hwhole : (Template.parse s).single?.bind c.resolve
      = (Template.parse s).single?.bind d.resolve := by
    cases hsingle : (Template.parse s).single? with
    | none => rfl
    | some path =>
        obtain ⟨raw, hparse⟩ := Template.single?_eq_some_iff.1 hsingle
        rw [hparse] at h
        exact h ⟨path, none, raw⟩ List.mem_cons_self
  unfold resolveText render
  rw [hwhole, Template.render_congr policy h]

/-- If the texts inside a value are resolved alike once they have been changed, so is the value. -/
theorem resolveValue_mapText {c d : Context} (policy : UnresolvedPolicy) {g : String → String}
    {v : Value} (h : ∀ s ∈ v.texts, c.resolveText policy (g s) = d.resolveText policy s) :
    c.resolveValue policy (v.mapText g) = d.resolveValue policy v := by
  induction v using Value.induction with
  | text s => exact h s List.mem_cons_self
  | list items ih =>
      rw [Value.texts_list] at h
      have hitems : ∀ v ∈ items,
          (c.resolveValue policy ∘ Value.mapText g) v = d.resolveValue policy v := by
        intro v hv
        apply ih v hv
        intro s hs
        exact h s (List.mem_flatMap.2 ⟨v, hv, hs⟩)
      rw [Value.mapText_list, resolveValue, resolveValue, resolveItems_eq, resolveItems_eq,
        List.mapM_map, mapM_congr hitems]
  | object members ih =>
      rw [Value.texts_object] at h
      have hmembers : ∀ m ∈ members, (c.resolveMember policy ∘ fun m => (m.1, m.2.mapText g)) m
          = d.resolveMember policy m := by
        intro m hm
        have hvalue : c.resolveValue policy (m.2.mapText g) = d.resolveValue policy m.2 := by
          apply ih m hm
          intro s hs
          exact h s (List.mem_flatMap.2 ⟨m, hm, hs⟩)
        rw [Function.comp_apply, resolveMember, resolveMember, hvalue]
      rw [Value.mapText_object, resolveValue, resolveValue, resolveMembers_eq, resolveMembers_eq,
        Dict.mapFields, List.mapM_map, mapM_congr hmembers]
  | _ => rfl

/-- What a value is resolved to depends on the values of its references only. -/
theorem resolveValue_congr {c d : Context} (policy : UnresolvedPolicy) {v : Value}
    (h : ∀ s ∈ v.texts, ∀ r ∈ (Template.parse s).references, c.resolve r.path = d.resolve r.path) :
    c.resolveValue policy v = d.resolveValue policy v := by
  have hsame : c.resolveValue policy (v.mapText id) = d.resolveValue policy v := by
    apply resolveValue_mapText
    intro s hs
    exact resolveText_congr policy (h s hs)
  rwa [Value.mapText_id] at hsame

/-! ## The two policies -/

theorem isSome_unresolved?_iff (v : Value) :
    (c.unresolved? v).isSome ↔
      ∃ s ∈ v.texts, ∃ r ∈ (Template.parse s).references, c.resolve r.path = none := by
  rw [unresolved?, List.find?_isSome]
  constructor
  · rintro ⟨r, hr, hnone⟩
    obtain ⟨s, hs, hr⟩ := List.mem_flatMap.1 hr
    exact ⟨s, hs, r, hr, Option.isNone_iff_eq_none.1 hnone⟩
  · rintro ⟨s, hs, r, hr, hnone⟩
    exact ⟨r, List.mem_flatMap.2 ⟨s, hs, hr⟩, Option.isNone_iff_eq_none.2 hnone⟩

/-- **The policies differ only in failing.**  If references that lead nowhere are errors, resolving
a value fails exactly if one of the texts inside it has such a reference, and the failure is that of
the first one, wrong parameters.  If it succeeds, it gives what passing such references through
gives, and the latter never fails.  Under both policies the result depends on the paths of the
references only. -/
theorem policies_differ_in_failing (v : Value) :
    ((∃ f, c.resolveValue .error v = .error f) ↔
      ∃ s ∈ v.texts, ∃ r ∈ (Template.parse s).references, c.resolve r.path = none) ∧
    (∀ f, c.resolveValue .error v = .error f →
      f.kind = .invalidParameters ∧ ∃ r, c.unresolved? v = some r ∧ f = r.unresolved) ∧
    (∀ u, c.resolveValue .error v = .ok u → c.resolveValue .passThrough v = .ok u) ∧
    (∃ u, c.resolveValue .passThrough v = .ok u) ∧
    ∀ (policy : UnresolvedPolicy) (d : Context),
      (∀ s ∈ v.texts, ∀ r ∈ (Template.parse s).references, c.resolve r.path = d.resolve r.path) →
      c.resolveValue policy v = d.resolveValue policy v := by
  obtain ⟨passed, hpassed⟩ := c.exists_resolveValue_passThrough v
  refine ⟨?fails, ?failure, ?same, ⟨passed, hpassed⟩, ?agree⟩
  case fails =>
    rw [← isSome_unresolved?_iff, resolveValue_error_eq, hpassed]
    cases c.unresolved? v <;> simp
  case failure =>
    intro f hf
    rw [resolveValue_error_eq, hpassed] at hf
    cases hfirst : c.unresolved? v with
    | none =>
        rw [hfirst] at hf
        cases hf
    | some r =>
        rw [hfirst] at hf
        obtain rfl : r.unresolved = f := Except.error.inj hf
        exact ⟨rfl, r, rfl, rfl⟩
  case same =>
    intro u hu
    rw [resolveValue_error_eq] at hu
    cases hfirst : c.unresolved? v with
    | none => simpa [hfirst] using hu
    | some r => simp [hfirst] at hu
  case agree =>
    intro policy d hagree
    exact resolveValue_congr policy hagree

/-! ## Escaped values -/

/-- Changing every text is undone by resolving, if it is for each text. -/
theorem resolveValue_mapText_eq_ok {g : String → String}
    (h : ∀ s, c.resolveText policy (g s) = .ok (.text s)) (v : Value) :
    c.resolveValue policy (v.mapText g) = .ok v := by
  induction v using Value.induction with
  | text s => exact h s
  | list items ih =>
      have hitems := mapM_map_eq_ok ih
      rw [Value.mapText_list, resolveValue, resolveItems_eq, hitems]
      rfl
  | object members ih =>
      have hmember : ∀ m ∈ members,
          c.resolveMember policy (m.1, m.2.mapText g) = .ok m := by
        intro m hm
        exact map_eq_ok.2 ⟨m.2, ih m hm, rfl⟩
      have hmembers := mapM_map_eq_ok hmember
      rw [Value.mapText_object, resolveValue, resolveMembers_eq, Dict.mapFields, hmembers]
      rfl
  | _ => rfl

end Context

namespace Value

theorem inert_list (items : List Value) : inert (.list items) = .list (items.map inert) := by
  rw [inert]
  congr 1
  induction items with
  | nil => rfl
  | cons v rest ih => rw [inertItems, List.map_cons, ih]

theorem inert_object (members : Dict Value) :
    inert (.object members) = .object (members.map fun m => (m.1, inert m.2)) := by
  rw [inert]
  congr 1
  induction members with
  | nil => rfl
  | cons m rest ih => rw [inertMembers, List.map_cons, ih]

theorem inert_eq_mapText (v : Value) : v.inert = v.mapText Template.escapeString := by
  induction v using induction with
  | list items ih => rw [inert_list, mapText_list, List.map_congr_left ih]
  | object members ih =>
      rw [inert_object, mapText_object, Dict.mapFields]
      congr 1
      apply List.map_congr_left
      intro m hm
      rw [ih m hm]
  | _ => rfl

/-- No text of an escaped value has references. -/
theorem references_inert (v : Value) : v.inert.references = [] := by
  rw [references, inert_eq_mapText, texts_mapText, List.flatMap_map]
  simp [Template.references_escapeString]

end Value

namespace Context

variable (c : Context) (policy : UnresolvedPolicy)

theorem resolveText_escapeString (s : String) :
    c.resolveText policy (Template.escapeString s) = .ok (.text s) := by
  have hsingle := Template.single?_eq_none (Template.references_escapeString s)
  rw [resolveText, hsingle, render_escapeString]
  rfl

/-- **Escaped values.**  An escaped value has no reference to look up, and resolving it gives the
value itself, whatever the context holds and whichever the policy is. -/
theorem resolveValue_inert (v : Value) :
    v.inert.references = [] ∧ c.resolveValue policy v.inert = .ok v := by
  constructor
  · exact v.references_inert
  · rw [Value.inert_eq_mapText]
    exact c.resolveValue_mapText_eq_ok policy (c.resolveText_escapeString policy) v

end Context

end Planwright
