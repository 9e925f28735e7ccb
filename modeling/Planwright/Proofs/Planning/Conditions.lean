import Planwright.Execution.Run
import Planwright.Proofs.Context.Resolving

set_option autoImplicit false

/-!
# Conditions that are filled in early

A condition that is one reference gets its value when the recipe is run, from the context, or
before, when the recipe is planned.  In the first case the value is judged by what it is.  In the
second the value stands in the recipe, and a text that stands there is a condition of its own: one
of the words `true` and `false`, or else a path.

Values that are no texts are judged alike in both cases.  Texts are not: `bound_early_iff` says for
which values, and in which contexts, it makes no difference where the value was filled in.
-/

namespace Planwright

/-! ## Trimming -/

namespace Text

theorem mem_dropWhile_of_mem {p : Char → Bool} {c : Char} {s : List Char} (h : c ∈ s)
    (hc : p c = false) : c ∈ s.dropWhile p := by
  rw [← List.takeWhile_append_dropWhile (p := p) (l := s), List.mem_append] at h
  cases h with
  | inl h =>
      have hp : p c = true := List.all_eq_true.1 List.all_takeWhile c h
      rw [hc] at hp
      cases hp
  | inr h => exact h

/-- Trimming takes away blanks only. -/
theorem mem_trim_of_mem {c : Char} {s : List Char} (h : c ∈ s) (hc : isBlank c = false) :
    c ∈ trim s := by
  have hstart : c ∈ (trimStart s).reverse := List.mem_reverse.2 (mem_dropWhile_of_mem h hc)
  exact List.mem_reverse.2 (mem_dropWhile_of_mem hstart hc)

theorem trim_sublist (s : List Char) : (trim s).Sublist s := by
  have hend : (trimStart (trimStart s).reverse).Sublist (trimStart s).reverse :=
    List.dropWhile_sublist isBlank
  have hstart : (trimStart s).Sublist s := List.dropWhile_sublist isBlank
  have hback := hend.reverse
  rw [List.reverse_reverse] at hback
  exact hback.trans hstart

theorem trim_eq_of_length_le {s : List Char} (h : s.length ≤ (trim s).length) : trim s = s :=
  (trim_sublist s).eq_of_length_le h

theorem piecesOf_of_not_mem {sep : Char} {s : String} (h : sep ∉ s.toList) :
    piecesOf sep s = [s] := by
  rw [piecesOf, List.splitOn_eq_singleton h, List.map_singleton, String.ofList_toList]

theorem piecesOf_ne_nil (sep : Char) (s : String) : piecesOf sep s ≠ [] := by
  intro h
  exact List.splitOn_ne_nil sep s.toList (List.map_eq_nil_iff.1 h)

/-- A text with a character that is none of the word counts as true. -/
theorem isTruthy_of_mem {s : String} {c : Char} (h : c ∈ s.toList)
    (hc : lowerBasic c ∉ "false".toList) : (Value.text s).isTruthy = true := by
  have hcase : equalIgnoringBasicCase s.toList "false".toList = false := by
    refine beq_eq_false_iff_ne.2 fun heq => ?_
    have hlower : lowerBasic c ∈ s.toList.map lowerBasic := List.mem_map_of_mem h
    rw [heq] at hlower
    exact hc hlower
  rw [Value.isTruthy, hcase]
  simp [List.ne_nil_of_mem h]

end Text

namespace Template

/-- What escaping guards stays guarded: without backslashes nothing was escaped. -/
theorem escape_of_not_mem {t : List Char} (h : '\\' ∉ escape t) : escape t = t := by
  fun_induction escape t with
  | case1 => rfl
  | case2 rest ih => exact absurd List.mem_cons_self h
  | case3 rest ih => exact absurd List.mem_cons_self h
  | case4 c rest _ _ ih => rw [ih (List.not_mem_of_not_mem_cons h)]

/-- A text that is a plain word, but for blanks around it, has nothing to escape. -/
theorem escapeString_of_trimString {s word : String} (h : Text.trimString s = word)
    (hdollar : '$' ∉ word.toList) (hbackslash : '\\' ∉ word.toList) : escapeString s = s := by
  have hplain : ∀ m : Char, Text.isBlank m = false → m ∉ word.toList → m ∉ s.toList := by
    intro m hblank hword hmem
    rw [← h, Text.trimString, String.toList_ofList] at hword
    exact hword (Text.mem_trim_of_mem hmem hblank)
  rw [escapeString, escape_of_unmarked (hplain _ (by decide) hbackslash)
    (hplain _ (by decide) hdollar), String.ofList_toList]

/-- If an escaped text is a plain word, but for blanks around it, nothing in it was escaped. -/
theorem escapeString_of_trimString_escapeString {s word : String}
    (h : Text.trimString (escapeString s) = word) (hbackslash : '\\' ∉ word.toList) :
    escapeString s = s := by
  have hplain : '\\' ∉ escape s.toList := by
    intro hmem
    rw [← h, Text.trimString, String.toList_ofList, escapeString,
      String.toList_ofList] at hbackslash
    exact hbackslash (Text.mem_trim_of_mem hmem (by decide))
  rw [escapeString, escape_of_not_mem hplain, String.ofList_toList]

theorem references_of_trimString {s word : String} (h : Text.trimString s = word)
    (hdollar : '$' ∉ word.toList) (hbackslash : '\\' ∉ word.toList) :
    (parse s).references = [] := by
  rw [← references_escapeString s, escapeString_of_trimString h hdollar hbackslash]

end Template

/-! ## Conditions without references -/

namespace Context

/-- What a text without references is worth as a condition: a word, or the value at a path. -/
def bareVerdict (c : Context) (s : String) : Bool :=
  let word := Text.trimString s
  if word == "true" then true else if word == "false" then false else c.holdsAt word

variable (policy : UnresolvedPolicy) (c : Context)

theorem condition_of_no_references {s : String} (h : (Template.parse s).references = []) :
    c.condition policy (.text s) = .ok (c.bareVerdict s) := by
  have hsingle := Template.single?_eq_none h
  unfold condition bareVerdict
  simp only [hsingle, h, List.isEmpty_nil, if_true]
  split
  · rfl
  · split <;> rfl

/-- A text with references is no plain word. -/
theorem condition_of_references {s : String} (h : (Template.parse s).references ≠ []) :
    c.condition policy (.text s) =
      match (Template.parse s).single? with
      | some path => .ok (c.holdsAt path)
      | none => (c.render policy s).map fun text => (Value.text text).isTruthy := by
  have htrue : Text.trimString s ≠ "true" := fun hword =>
    h (Template.references_of_trimString hword (by decide) (by decide))
  have hfalse : Text.trimString s ≠ "false" := fun hword =>
    h (Template.references_of_trimString hword (by decide) (by decide))
  cases hsingle : (Template.parse s).single? <;>
    simp only [condition, beq_iff_eq, htrue, hfalse, if_false, List.isEmpty_iff, h, hsingle]

/-- A condition that is one reference is judged by the value it refers to. -/
theorem condition_of_single {s path : String} (h : (Template.parse s).single? = some path) :
    c.condition policy (.text s) = .ok (c.holdsAt path) := by
  obtain ⟨raw, hparse⟩ := Template.single?_eq_some_iff.1 h
  have hreferences : (Template.parse s).references ≠ [] := by simp [hparse]
  rw [condition_of_references policy c hreferences, h]

/-- The value under a key that is one word is found by that word. -/
theorem holdsAt_assign_self {name : String} (hname : '.' ∉ name.toList) (v : Value) :
    (c.assign name v).holdsAt name = v.isTruthy := by
  rw [holdsAt, resolve, Text.piecesOf_of_not_mem hname]
  simp [Value.lookup]

/-! ## Values in the place of conditions -/

/-- What a value is worth that was put in the place of a condition. -/
def earlyVerdict : Value → Bool
  | .text s => c.bareVerdict (Template.escapeString s)
  | v => v.isTruthy

theorem condition_inert (v : Value) : c.condition policy v.inert = .ok (c.earlyVerdict v) := by
  cases v with
  | text s => exact c.condition_of_no_references policy (Template.references_escapeString s)
  | list items => cases items <;> rfl
  | object members => cases members <;> rfl
  | _ => rfl

end Context

/-! ## Paths that hold -/

namespace Value

/-- A value at the end of a path. -/
def under (v : Value) : List String → Value
  | [] => v
  | segment :: rest => .object [(segment, under v rest)]

theorem lookup_under (v : Value) (path : List String) : (under v path).lookup path = some v := by
  induction path with
  | nil => rfl
  | cons segment rest ih => simpa [under, lookup, child?, Dict.get?_cons] using ih

end Value

namespace Context

theorem holdsAt_empty (path : String) : empty.holdsAt path = false := by
  rw [holdsAt, resolve]
  cases Text.piecesOf '.' path <;> rfl

/-- Every path leads to a value that counts as true in some context. -/
theorem exists_holdsAt (path : String) : ∃ c : Context, c.holdsAt path = true := by
  cases hpieces : Text.piecesOf '.' path with
  | nil => exact absurd hpieces (Text.piecesOf_ne_nil '.' path)
  | cons key rest =>
      refine ⟨⟨[(key, (Value.bool true).under rest)]⟩, ?_⟩
      simp [holdsAt, resolve, hpieces, get?, Dict.get?_cons, Value.lookup_under, Value.isTruthy]

/-! ## Which texts are judged alike -/

theorem isTruthy_of_trimString_true {s : String} (h : Text.trimString s = "true") :
    (Value.text s).isTruthy = true := by
  have htrim : Text.trim s.toList = "true".toList := by
    rw [← h, Text.trimString, String.toList_ofList]
  have hmem : 't' ∈ s.toList := by
    refine (Text.trim_sublist s.toList).mem ?_
    rw [htrim]
    decide
  exact Text.isTruthy_of_mem hmem (by decide)

theorem eq_false_of_trimString {s : String} (h : Text.trimString s = "false")
    (hfalsy : (Value.text s).isTruthy = false) : s = "false" := by
  have htrim : Text.trim s.toList = "false".toList := by
    rw [← h, Text.trimString, String.toList_ofList]
  have hlength : s.toList.length ≤ (Text.trim s.toList).length := by
    rw [htrim]
    by_cases hempty : s.toList = []
    · simp [hempty]
    · have hcase : Text.equalIgnoringBasicCase s.toList "false".toList = true := by
        simpa [Value.isTruthy, hempty] using hfalsy
      have hmap := congrArg List.length (eq_of_beq hcase)
      rw [List.length_map, List.length_map] at hmap
      exact Nat.le_of_eq hmap
  rw [← String.ofList_toList (s := s), ← Text.trim_eq_of_length_le hlength, htrim]
  rfl

/-- The texts that are judged alike in every context, wherever they were filled in. -/
theorem bareVerdict_escapeString_iff (s : String) :
    (∀ c : Context, c.bareVerdict (Template.escapeString s) = (Value.text s).isTruthy) ↔
      Text.trimString s = "true" ∨ s = "false" := by
  constructor
  · intro halike
    by_cases htrue : Text.trimString (Template.escapeString s) = "true"
    · left
      rw [← Template.escapeString_of_trimString_escapeString htrue (by decide), htrue]
    by_cases hfalse : Text.trimString (Template.escapeString s) = "false"
    · right
      have hescape := Template.escapeString_of_trimString_escapeString hfalse (by decide)
      have hfalsy := halike empty
      rw [bareVerdict, hfalse] at hfalsy
      exact eq_false_of_trimString (hescape ▸ hfalse) hfalsy.symm
    -- any other word is a path, and a path may hold or not
    have hpath : ∀ c : Context,
        c.holdsAt (Text.trimString (Template.escapeString s)) = (Value.text s).isTruthy := by
      intro c
      rw [← halike c, bareVerdict]
      simp [htrue, hfalse]
    obtain ⟨c, hholds⟩ := exists_holdsAt (Text.trimString (Template.escapeString s))
    have hboth := (hpath c).trans (hpath empty).symm
    rw [hholds, holdsAt_empty] at hboth
    cases hboth
  · rintro (htrue | rfl) c
    · have hescape : Template.escapeString s = s :=
        Template.escapeString_of_trimString htrue (by decide) (by decide)
      rw [isTruthy_of_trimString_true htrue, hescape, bareVerdict, htrue]
      rfl
    · rfl

/-! ## Filling in early -/

/-- What is put in the place of a condition that is one reference. -/
theorem substitute_of_single {lookup : String → Option Value} {s name : String} {v : Value}
    (hsingle : (Template.parse s).single? = some name) (hbound : lookup name = some v) :
    Value.substitute lookup (.text s) = v.inert := by
  simp [Value.substitute, Value.substituteWhole, hsingle, hbound]

/-- **Filling in a condition early.**  Let a condition be one reference to a name, and let planning
know its value.  Judged when the recipe is run, with the name assigned, the condition is what the
value is worth.  Filled in by planning, it is judged the same in a context exactly if the value,
read as a condition, has its own worth there; and so in all contexts exactly if it is no text, or
reads `true` between blanks, or is `false`. -/
theorem bound_early_iff (policy : UnresolvedPolicy) {lookup : String → Option Value}
    {s name : String} {v : Value}
    (hsingle : (Template.parse s).single? = some name) (hname : '.' ∉ name.toList)
    (hbound : lookup name = some v) :
    (∀ c : Context, (c.assign name v).condition policy (.text s) = .ok v.isTruthy) ∧
      (∀ c : Context, c.condition policy (Value.substitute lookup (.text s))
          = (c.assign name v).condition policy (.text s) ↔ c.earlyVerdict v = v.isTruthy) ∧
      ((∀ c : Context, c.condition policy (Value.substitute lookup (.text s))
          = (c.assign name v).condition policy (.text s)) ↔
        ∀ t, v = .text t → Text.trimString t = "true" ∨ t = "false") := by
  have hlate : ∀ c : Context, (c.assign name v).condition policy (.text s) = .ok v.isTruthy := by
    intro c
    rw [condition_of_single policy _ hsingle, holdsAt_assign_self c hname]
  have halike : ∀ c : Context, c.condition policy (Value.substitute lookup (.text s))
      = (c.assign name v).condition policy (.text s) ↔ c.earlyVerdict v = v.isTruthy := by
    intro c
    rw [hlate, substitute_of_single hsingle hbound, condition_inert, Except.ok.injEq]
  refine ⟨hlate, halike, ?_⟩
  simp only [halike]
  cases v with
  | text t => simpa [earlyVerdict] using bareVerdict_escapeString_iff t
  | _ => simp [earlyVerdict]

/-- A number is judged alike, wherever it was filled in. -/
theorem bound_early_number :
    (Template.parse "${count}").single? = some "count" ∧ '.' ∉ "count".toList ∧
      empty.condition .error (Value.substitute (Dict.get? [("count", .ofNat 3)]) (.text "${count}"))
        = (empty.assign "count" (.ofNat 3)).condition .error (.text "${count}") := by
  have hsingle : (Template.parse "${count}").single? = some "count" := by decide +kernel
  have hname : '.' ∉ "count".toList := by decide
  refine ⟨hsingle, hname, (bound_early_iff .error hsingle hname rfl).2.2.2 ?_ empty⟩
  intro t ht
  cases ht

/-- The text `admin`, filled in early, is a path: it is false where what a step has assigned to
`admin` is, although the text itself counts as true. -/
theorem text_becomes_path :
    (empty.assign "admin" (.text "")).condition .passThrough
        (Value.substitute (Dict.get? [("target", .text "admin")]) (.text "${target}"))
      = .ok false ∧
    ((empty.assign "admin" (.text "")).assign "target" (.text "admin")).condition .passThrough
        (.text "${target}")
      = .ok true := by
  have hsingle : (Template.parse "${target}").single? = some "target" := by decide +kernel
  constructor
  · rw [substitute_of_single hsingle rfl, condition_inert]
    rfl
  · rw [condition_of_single _ _ hsingle]
    rfl

end Context

end Planwright
