import Planwright.Proofs.Fallible
import Planwright.Provider.Request

set_option autoImplicit false

/-!
# Filling paths

An endpoint's path is divided into plain text and parameters in braces in exactly one way
(`divided_iff`): a parameter reaches from an opening brace to the next closing one, and from the
first opening brace that nothing closes all is plain text.

A path can be filled if no parameter is named twice in it and each has a value
(`fillParts_eq_ok_iff`).  The first name that has no value, or that was named before, is reported as
missing (`fillParts_eq_error_iff`), since a parameter is used up by its first place.
-/

namespace Planwright

open Fallible

namespace Request

/-! ## Dividing -/

/-- The text of a part as it stands in a path. -/
def PathPart.written : PathPart → List Char
  | .plain text => text
  | .param name => '{' :: name.toList ++ ['}']

/-- The name of a part in braces. -/
def PathPart.name? : PathPart → Option String
  | .plain _ => none
  | .param name => some name

/-- The names in braces, in their order. -/
def paramNames (parts : List PathPart) : List String := parts.filterMap PathPart.name?

@[simp] theorem paramNames_nil : paramNames [] = [] := rfl

@[simp] theorem paramNames_plain (text : List Char) (parts : List PathPart) :
    paramNames (.plain text :: parts) = paramNames parts := rfl

@[simp] theorem paramNames_param (name : String) (parts : List PathPart) :
    paramNames (.param name :: parts) = name :: paramNames parts := rfl

/-- How a path is divided. -/
inductive Divided : List Char → List PathPart → Prop where
  | plain {text : List Char} (noOpening : '{' ∉ text) : Divided text [.plain text]
  /-- an opening brace that nothing closes -/
  | unclosed {before rest : List Char} (noOpening : '{' ∉ before) (noClosing : '}' ∉ rest) :
      Divided (before ++ '{' :: rest) [.plain (before ++ '{' :: rest)]
  | param {before rest : List Char} {name : String} {parts : List PathPart}
      (noOpening : '{' ∉ before) (noClosing : '}' ∉ name.toList) (later : Divided rest parts) :
      Divided (before ++ '{' :: (name.toList ++ '}' :: rest))
        (.plain before :: .param name :: parts)

/-- A divided path is what its parts say, one after the other. -/
theorem Divided.written {path : List Char} {parts : List PathPart} (h : Divided path parts) :
    parts.flatMap PathPart.written = path := by
  induction h with
  | plain _ => simp [PathPart.written]
  | unclosed _ _ => simp [PathPart.written]
  | param _ _ _ ih => simp [PathPart.written, ih]

theorem pathParts_of_no_opening {s : List Char} (h : Text.cutAt '{' s = none) :
    pathParts s = [.plain s] := by
  rw [pathParts]
  split
  · rfl
  · next heq =>
    rw [h] at heq
    cases heq

theorem pathParts_of_no_closing {s before rest : List Char}
    (h : Text.cutAt '{' s = some (before, rest)) (h' : Text.cutAt '}' rest = none) :
    pathParts s = [.plain s] := by
  rw [pathParts]
  split
  · rfl
  · next heq =>
    rw [h] at heq
    cases heq
    split
    · rfl
    · next heq' =>
      rw [h'] at heq'
      cases heq'

theorem pathParts_of_param {s before rest name after : List Char}
    (h : Text.cutAt '{' s = some (before, rest)) (h' : Text.cutAt '}' rest = some (name, after)) :
    pathParts s = .plain before :: .param (String.ofList name) :: pathParts after := by
  rw [pathParts]
  split
  · next heq =>
    rw [h] at heq
    cases heq
  · next heq =>
    rw [h] at heq
    cases heq
    split
    · next heq' =>
      rw [h'] at heq'
      cases heq'
    · next heq' =>
      rw [h'] at heq'
      cases heq'
      rfl

theorem divided_pathParts (s : List Char) : Divided s (pathParts s) := by
  induction s using pathParts.induct with
  | case1 s hopen =>
      rw [pathParts_of_no_opening hopen]
      exact .plain (Text.cutAt_eq_none_iff.1 hopen)
  | case2 s before rest hopen hclose =>
      rw [pathParts_of_no_closing hopen hclose, (Text.eq_of_cutAt hopen).1]
      exact .unclosed (Text.eq_of_cutAt hopen).2 (Text.cutAt_eq_none_iff.1 hclose)
  | case3 s before rest hopen name after hclose _ ih =>
      rw [pathParts_of_param hopen hclose]
      obtain ⟨rfl, hbefore⟩ := Text.eq_of_cutAt hopen
      obtain ⟨rfl, hname⟩ := Text.eq_of_cutAt hclose
      rw [← String.toList_ofList (l := name)] at hname ⊢
      rw [String.ofList_toList]
      exact .param hbefore hname ih

/-- A path is divided in one way. -/
theorem divided_iff {s : List Char} {parts : List PathPart} :
    Divided s parts ↔ parts = pathParts s := by
  constructor
  · intro h
    induction h with
    | plain hopen => rw [pathParts_of_no_opening (Text.cutAt_eq_none_iff.2 hopen)]
    | unclosed hopen hclose =>
        rw [pathParts_of_no_closing (Text.cutAt_append hopen _) (Text.cutAt_eq_none_iff.2 hclose)]
    | param hopen hclose _ ih =>
        rw [pathParts_of_param (Text.cutAt_append hopen _) (Text.cutAt_append hclose _), ← ih,
          String.ofList_toList]
  · rintro rfl
    exact divided_pathParts s

/-! ## Filling -/

/-- Parts are filled from parameters: plain text stays, and in the place of a parameter in braces
stands a text for its value. -/
inductive Filled (standsFor : List Char → Value → Prop) (params : Dict Value) :
    List PathPart → List Char → Prop where
  | nil : Filled standsFor params [] []
  | plain (text : List Char) {parts : List PathPart} {rest : List Char}
      (later : Filled standsFor params parts rest) :
      Filled standsFor params (.plain text :: parts) (text ++ rest)
  | param {name : String} {v : Value} {text : List Char} {parts : List PathPart} {rest : List Char}
      (found : params.get? name = some v) (stands : standsFor text v)
      (later : Filled standsFor params parts rest) :
      Filled standsFor params (.param name :: parts) (text ++ rest)

/-- The text is the percent-encoding of the value as it is shown. -/
def Encodes (text : List Char) (v : Value) : Prop := text = Text.percentEncode v.shown.toList

section Filling

variable {standsFor : List Char → Value → Prop} {params : Dict Value} {parts : List PathPart}
  {filled : List Char}

theorem Filled.mono {other : List Char → Value → Prop} (h : Filled standsFor params parts filled)
    (himp : ∀ text v, standsFor text v → other text v) : Filled other params parts filled := by
  induction h with
  | nil => exact .nil
  | plain text _ ih => exact .plain text ih
  | param found stands _ ih => exact .param found (himp _ _ stands) ih

/-- Parameters that the parts do not name do not matter. -/
theorem Filled.congr {other : Dict Value} (h : Filled standsFor params parts filled)
    (hsame : ∀ name ∈ paramNames parts, other.get? name = params.get? name) :
    Filled standsFor other parts filled := by
  induction h with
  | nil => exact .nil
  | plain text _ ih => exact .plain text (ih hsame)
  | param found stands _ ih =>
      obtain ⟨hname, hrest⟩ := List.forall_mem_cons.1 hsame
      exact .param (hname.trans found) stands (ih hrest)

/-- Every parameter that the parts name has a value. -/
theorem Filled.mem_keys (h : Filled standsFor params parts filled) :
    ∀ name ∈ paramNames parts, name ∈ params.keys := by
  induction h with
  | nil => exact List.forall_mem_nil _
  | plain _ _ ih => exact ih
  | param found _ _ ih =>
      exact List.forall_mem_cons.2 ⟨List.mem_map_of_mem (Dict.mem_of_get? found), ih⟩

theorem exists_filled (h : ∀ name ∈ paramNames parts, name ∈ params.keys) :
    ∃ filled, Filled Encodes params parts filled := by
  induction parts with
  | nil => exact ⟨[], .nil⟩
  | cons part parts ih =>
      cases part with
      | plain text =>
          obtain ⟨rest, hrest⟩ := ih h
          exact ⟨text ++ rest, .plain text hrest⟩
      | param name =>
          obtain ⟨hname, hnames⟩ := List.forall_mem_cons.1 h
          obtain ⟨rest, hrest⟩ := ih hnames
          cases hfound : params.get? name with
          | none => exact absurd hname (Dict.get?_eq_none_iff.1 hfound)
          | some v => exact ⟨_, .param hfound rfl hrest⟩

/-- A sign that stands in no plain text and in no text for a value does not stand in the filled
path. -/
theorem Filled.not_mem {c : Char} (h : Filled standsFor params parts filled)
    (hstands : ∀ text v, standsFor text v → c ∉ text)
    (hwritten : c ∉ parts.flatMap PathPart.written) : c ∉ filled := by
  induction h with
  | nil => exact List.not_mem_nil
  | plain text _ ih =>
      rw [List.flatMap_cons, List.mem_append, not_or] at hwritten
      exact fun hmem => (List.mem_append.1 hmem).elim hwritten.1 (ih hwritten.2)
  | param _ stands _ ih =>
      rw [List.flatMap_cons, List.mem_append, not_or] at hwritten
      exact fun hmem => (List.mem_append.1 hmem).elim (hstands _ _ stands) (ih hwritten.2)

end Filling

/-! ## What filling does -/

theorem fillParts_plain (params : Dict Value) (text : List Char) (parts : List PathPart) :
    fillParts params (.plain text :: parts)
      = (fillParts params parts).map fun p => (text ++ p.1, p.2) := by
  rw [fillParts]
  cases fillParts params parts <;> rfl

theorem fillParts_param {params : Dict Value} {name : String} {v : Value}
    (h : params.get? name = some v) (parts : List PathPart) :
    fillParts params (.param name :: parts)
      = (fillParts (params.erase name) parts).map fun p =>
          (Text.percentEncode v.shown.toList ++ p.1, p.2) := by
  rw [fillParts, h]
  dsimp only
  cases fillParts (params.erase name) parts <;> rfl

theorem fillParts_missing {params : Dict Value} {name : String} (h : params.get? name = none)
    (parts : List PathPart) :
    fillParts params (.param name :: parts) = .error (.missingParameter name) := by
  rw [fillParts, h]

/-- A path is filled exactly if no parameter is named twice in it and each has a value; what is left
are the parameters that it does not name. -/
theorem fillParts_eq_ok_iff {params left : Dict Value} {parts : List PathPart}
    {filled : List Char} :
    fillParts params parts = .ok (filled, left) ↔
      (paramNames parts).Nodup ∧ Filled Encodes params parts filled ∧
        left = params.filter fun e => e.1 ∉ paramNames parts := by
  induction parts generalizing params filled left with
  | nil =>
      have hall : (params.filter fun e => e.1 ∉ paramNames []) = params :=
        List.filter_eq_self.2 fun _ _ => by simp
      rw [hall]
      constructor
      · intro h
        cases h
        exact ⟨List.nodup_nil, .nil, rfl⟩
      · rintro ⟨-, hfilled, rfl⟩
        cases hfilled
        rfl
  | cons part parts ih =>
      cases part with
      | plain text =>
          rw [fillParts_plain, map_eq_ok]
          constructor
          · rintro ⟨⟨rest, left⟩, hrest, heq⟩
            cases heq
            obtain ⟨hnodup, hfilled, hleft⟩ := ih.1 hrest
            exact ⟨hnodup, .plain text hfilled, hleft⟩
          · rintro ⟨hnodup, hfilled, hleft⟩
            cases hfilled with
            | plain _ later => exact ⟨(_, left), ih.2 ⟨hnodup, later, hleft⟩, rfl⟩
      | param name =>
          cases hfound : params.get? name with
          | none =>
              rw [fillParts_missing hfound]
              constructor
              · intro h
                cases h
              · rintro ⟨-, hfilled, -⟩
                cases hfilled with
                | param found _ _ =>
                    rw [hfound] at found
                    cases found
          | some v =>
              -- the parameter is used up, but no other place needs it
              have hsame (hname : name ∉ paramNames parts) :
                  ∀ n ∈ paramNames parts, (params.erase name).get? n = params.get? n :=
                fun n hn => Dict.get?_erase_of_ne fun heq => hname (heq ▸ hn)
              rw [fillParts_param hfound, map_eq_ok, paramNames_param, List.nodup_cons,
                ← Dict.filter_erase]
              constructor
              · rintro ⟨⟨rest, left⟩, hrest, heq⟩
                cases heq
                obtain ⟨hnodup, hfilled, hleft⟩ := ih.1 hrest
                have hname : name ∉ paramNames parts :=
                  fun hmem => (Dict.mem_keys_erase_iff.1 (hfilled.mem_keys name hmem)).1 rfl
                have hlater := hfilled.congr fun n hn => (hsame hname n hn).symm
                exact ⟨⟨hname, hnodup⟩, .param hfound rfl hlater, hleft⟩
              · rintro ⟨⟨hname, hnodup⟩, hfilled, hleft⟩
                cases hfilled with
                | param found stands later =>
                    obtain rfl : v = _ := Option.some.inj (hfound.symm.trans found)
                    obtain rfl := stands
                    exact ⟨(_, left), ih.2 ⟨hnodup, later.congr (hsame hname), hleft⟩, rfl⟩

/-- The first name in a path that has no value, or that was named before. -/
def FirstMissing (params : Dict Value) (parts : List PathPart) (name : String) : Prop :=
  ∃ before after, parts = before ++ .param name :: after ∧ (paramNames before).Nodup ∧
    (∀ n ∈ paramNames before, n ∈ params.keys) ∧ (name ∈ paramNames before ∨ name ∉ params.keys)

theorem firstMissing_plain_iff {params : Dict Value} {text : List Char} {parts : List PathPart}
    {name : String} :
    FirstMissing params (.plain text :: parts) name ↔ FirstMissing params parts name := by
  constructor
  · rintro ⟨before, after, heq, h⟩
    cases before with
    | nil => cases heq
    | cons part before =>
        obtain ⟨rfl, rfl⟩ := List.cons.inj heq
        exact ⟨before, after, rfl, h⟩
  · rintro ⟨before, after, rfl, h⟩
    exact ⟨.plain text :: before, after, rfl, h⟩

theorem firstMissing_param_of_none {params : Dict Value} {first name : String}
    {parts : List PathPart} (h : params.get? first = none) :
    FirstMissing params (.param first :: parts) name ↔ name = first := by
  have hkeys := Dict.get?_eq_none_iff.1 h
  constructor
  · rintro ⟨before, after, heq, -, hbefore, -⟩
    cases before with
    | nil =>
        cases heq
        rfl
    | cons part before =>
        obtain ⟨rfl, -⟩ := List.cons.inj heq
        exact absurd (hbefore first List.mem_cons_self) hkeys
  · rintro rfl
    exact ⟨[], parts, rfl, List.nodup_nil, List.forall_mem_nil _, .inr hkeys⟩

theorem firstMissing_param_of_some {params : Dict Value} {first name : String}
    {parts : List PathPart} (h : first ∈ params.keys) :
    FirstMissing params (.param first :: parts) name ↔
      FirstMissing (params.erase first) parts name := by
  constructor
  · rintro ⟨before, after, heq, hnodup, hbefore, hname⟩
    cases before with
    | nil =>
        cases heq
        rcases hname with hmem | hkeys
        · cases hmem
        · exact absurd h hkeys
    | cons part before =>
        obtain ⟨rfl, rfl⟩ := List.cons.inj heq
        rw [paramNames_param, List.nodup_cons] at hnodup
        obtain ⟨-, hbefore⟩ := List.forall_mem_cons.1 hbefore
        refine ⟨before, after, rfl, hnodup.2, fun n hn => ?_, ?_⟩
        · exact Dict.mem_keys_erase_iff.2 ⟨fun heq => hnodup.1 (heq ▸ hn), hbefore n hn⟩
        · rw [Dict.mem_keys_erase_iff]
          rcases hname with hmem | hkeys
          · exact (List.mem_cons.1 hmem).elim (fun heq => .inr fun hne => hne.1 heq) .inl
          · exact .inr fun hmem => hkeys hmem.2
  · rintro ⟨before, after, rfl, hnodup, hbefore, hname⟩
    have hfirst : first ∉ paramNames before :=
      fun hmem => (Dict.mem_keys_erase_iff.1 (hbefore first hmem)).1 rfl
    refine ⟨.param first :: before, after, rfl, List.nodup_cons.2 ⟨hfirst, hnodup⟩, ?_, ?_⟩
    · exact List.forall_mem_cons.2
        ⟨h, fun n hn => (Dict.mem_keys_erase_iff.1 (hbefore n hn)).2⟩
    · rw [paramNames_param, List.mem_cons]
      by_cases heq : name = first
      · exact .inl (.inl heq)
      · exact hname.imp .inr fun hkeys hmem => hkeys (Dict.mem_keys_erase_iff.2 ⟨heq, hmem⟩)

/-- If a path cannot be filled, the first name without a value, or named for the second time, is
reported. -/
theorem fillParts_eq_error_iff {params : Dict Value} {parts : List PathPart} {f : Fault} :
    fillParts params parts = .error f ↔
      ∃ name, FirstMissing params parts name ∧ f = .missingParameter name := by
  induction parts generalizing params with
  | nil =>
      constructor
      · intro h
        cases h
      · rintro ⟨name, ⟨before, after, heq, -⟩, -⟩
        cases before <;> cases heq
  | cons part parts ih =>
      cases part with
      | plain text =>
          rw [fillParts_plain, map_eq_error]
          simp only [firstMissing_plain_iff]
          exact ih
      | param first =>
          cases hfound : params.get? first with
          | none =>
              rw [fillParts_missing hfound]
              simp only [firstMissing_param_of_none hfound, exists_eq_left]
              exact ⟨fun h => (Except.error.inj h).symm, fun h => congrArg Except.error h.symm⟩
          | some v =>
              have hkeys : first ∈ params.keys := List.mem_map_of_mem (Dict.mem_of_get? hfound)
              rw [fillParts_param hfound, map_eq_error]
              simp only [firstMissing_param_of_some hkeys]
              exact ih

end Request

end Planwright
