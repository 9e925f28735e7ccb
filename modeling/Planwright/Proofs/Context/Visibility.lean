import Planwright.Proofs.Execution.Begun
import Planwright.Proofs.Execution.Writes
import Planwright.Proofs.Planning.Conditions

set_option autoImplicit false

/-!
# What steps see of what was stored

A step stores its result under a key, and the key is taken as it is.  Later steps read by paths, and
a path is cut at its points: its first word names a key, the rest leads into the value under it.  So
what is stored under a key without points is what its path leads to, until a later step stores
something under the same key.  What is stored under a key with points no path leads to: all paths go
on reading what they read before (`resolve_assign_of_point`).

Storing changes nothing for the paths whose first word is another key.
-/

namespace Planwright

open Fallible

/-! ## Paths -/

namespace Text

/-- The parts between separators have none. -/
theorem not_mem_of_mem_splitOn {sep : Char} {s word : List Char} (h : word ∈ s.splitOn sep) :
    sep ∉ word := by
  induction s generalizing word with
  | nil => simp_all
  | cons c s ih =>
      rw [List.splitOn_cons_eq_if_modifyHead] at h
      split at h
      · rcases List.mem_cons.1 h with rfl | h
        · exact List.not_mem_nil
        · exact ih h
      · next hc =>
          obtain ⟨first, others, hwords⟩ := List.exists_cons_of_ne_nil (List.splitOn_ne_nil sep s)
          rw [hwords, List.modifyHead_cons] at h
          rcases List.mem_cons.1 h with rfl | h
          · have hfirst : sep ∉ first := ih (by simp [hwords])
            have hne : c ≠ sep := by simpa using hc
            simp [Ne.symm hne, hfirst]
          · exact ih (by simp [hwords, h])

end Text

namespace Context

/-- The first word of a path, which names a key. -/
def keyOf (path : String) : String := (Text.piecesOf '.' path).headD ""

/-- The words of a path behind the first, which lead into the value under the key. -/
def wordsBehind (path : String) : List String := (Text.piecesOf '.' path).tail

variable {c d : Context} {key path : String}

theorem resolve_eq (c : Context) (path : String) :
    c.resolve path = (c.get? (keyOf path)).bind (·.lookup (wordsBehind path)) := by
  unfold resolve keyOf wordsBehind
  cases hpieces : Text.piecesOf '.' path with
  | nil => exact absurd hpieces (Text.piecesOf_ne_nil '.' path)
  | cons key rest => rfl

/-- What a path leads to depends on what stands under its first word only. -/
theorem resolve_congr (h : c.get? (keyOf path) = d.get? (keyOf path)) :
    c.resolve path = d.resolve path := by
  rw [resolve_eq, resolve_eq, h]

/-- A path without points leads to what stands under the key of its name. -/
theorem resolve_of_no_point (h : '.' ∉ key.toList) (c : Context) : c.resolve key = c.get? key := by
  rw [resolve_eq, keyOf, wordsBehind, Text.piecesOf_of_not_mem h]
  simp [Value.lookup]

/-- No path names a key with points. -/
theorem point_not_mem_keyOf (path : String) : '.' ∉ (keyOf path).toList := by
  obtain ⟨first, others, hwords⟩ :=
    List.exists_cons_of_ne_nil (List.splitOn_ne_nil '.' path.toList)
  have hmem : first ∈ path.toList.splitOn '.' := by simp [hwords]
  rw [keyOf, Text.piecesOf, hwords, List.map_cons, List.headD_cons, String.toList_ofList]
  exact Text.not_mem_of_mem_splitOn hmem

/-- Storing changes nothing for a path whose first word is another key. -/
theorem resolve_assign_of_ne (h : keyOf path ≠ key) (c : Context) (v : Value) :
    (c.assign key v).resolve path = c.resolve path := by
  apply resolve_congr
  exact get?_assign_of_ne c h v

/-- Storing under a key with points changes nothing for any path. -/
theorem resolve_assign_of_point (h : '.' ∈ key.toList) (c : Context) (v : Value) (path : String) :
    (c.assign key v).resolve path = c.resolve path := by
  apply resolve_assign_of_ne
  rintro rfl
  exact point_not_mem_keyOf path h

/-- The path of the name of a key leads to what was stored there if the name has no points, and
otherwise to what it led to before. -/
theorem resolve_assign_self_iff (c : Context) (key : String) (v : Value) :
    (c.assign key v).resolve key = some v ↔ '.' ∉ key.toList ∨ c.resolve key = some v := by
  by_cases hpoint : '.' ∈ key.toList
  · simp [resolve_assign_of_point hpoint, hpoint]
  · simp [resolve_of_no_point hpoint, hpoint]

end Context

/-! ## Moments of an execution -/

namespace Surroundings

/-- Running steps, the first of them at an index, begins a step at a place in a state, after others
have ended: these are listed in the order of their ends. -/
inductive BeginsAfter (s : Surroundings) (fallbacks : List String) : List (Nat × Bool) → Nat →
    List Node → RunState → List Visit → Place → Node → RunState → Prop where
  | first {around : List (Nat × Bool)} {index : Nat} {n : Node} {rest : List Node} {st : RunState} :
      BeginsAfter s fallbacks around index (n :: rest) st [] ⟨around, index⟩ n st
  /-- a step of the branch that the condition has led to -/
  | inside {around : List (Nat × Bool)} {index : Nat} {head : StepHead} {condition : Value}
      {ifTrue ifFalse rest : List Node} {st : RunState} {b : Bool} {done : List Visit}
      {place : Place} {n : Node} {st' : RunState}
      (side : st.context.condition s.config.unresolved condition = .ok b)
      (branch : BeginsAfter s fallbacks (Place.inside ⟨around, index⟩ b) 0
        (if b then ifTrue else ifFalse) st done place n st') :
      BeginsAfter s fallbacks around index (.branch head condition ifTrue ifFalse :: rest) st done
        place n st'
  /-- a step behind one that lets the steps behind it go on -/
  | later {around : List (Nat × Bool)} {index : Nat} {m : Node} {rest : List Node}
      {st after : RunState} {v : Value} {entries : List StepTrace} {done : List Visit}
      {place : Place} {n : Node} {st' : RunState}
      (next : s.runNode fallbacks ⟨around, index⟩ m st = (.ok (.next v), entries, after))
      (behind : BeginsAfter s fallbacks around (index + 1) rest after done place n st') :
      BeginsAfter s fallbacks around index (m :: rest) st
        ((s.visit fallbacks ⟨around, index⟩ m st).finished ++ done) place n st'

section

variable {s : Surroundings} {fallbacks : List String} {around : List (Nat × Bool)} {index : Nat}
  {nodes : List Node} {st st' : RunState} {done : List Visit} {place : Place} {n : Node}

/-- Every step that is begun is begun after those that have ended before. -/
theorem begins_iff_exists_beginsAfter :
    s.Begins fallbacks around index nodes st place n st' ↔
      ∃ done, s.BeginsAfter fallbacks around index nodes st done place n st' := by
  constructor
  · intro h
    induction h with
    | first => exact ⟨[], .first⟩
    | inside side _ ih =>
        obtain ⟨done, hdone⟩ := ih
        exact ⟨done, .inside side hdone⟩
    | later next _ ih =>
        obtain ⟨done, hdone⟩ := ih
        exact ⟨_, .later next hdone⟩
  · rintro ⟨done, h⟩
    induction h with
    | first => exact .first
    | inside side _ ih => exact .inside side ih
    | later next _ ih => exact .later next ih

/-- A step is begun in the context that the steps before it have written. -/
theorem BeginsAfter.context_eq
    (h : s.BeginsAfter fallbacks around index nodes st done place n st') :
    st'.context = done.foldl Visit.write st.context := by
  induction h with
  | first => rfl
  | inside _ _ ih => exact ih
  | @later around index m rest st after v entries done place n st' next _ ih =>
      have haccounts : Visit.Accounts st (s.runNode fallbacks ⟨around, index⟩ m st)
          [s.visit fallbacks ⟨around, index⟩ m st] := accounts_visits.1 m _ st
      have hafter := haccounts.context
      rw [next, Visit.finishedAll_singleton, ← Visit.finished_eq] at hafter
      rw [ih, List.foldl_append, ← hafter]

end

/-- A moment of an execution at which its context is read, with the steps that have ended before, in
the order of their ends: the beginning of a step, or the end of the execution. -/
inductive Moment (s : Surroundings) (w : World) (r : Recipe) : List Visit → Context → Prop where
  | begun {nodes : List Node} {done : List Visit} {place : Place} {n : Node} {st : RunState}
      (read : Node.decode w.catalog.hasAction s.config.maxDepth r.steps = .ok nodes)
      (goes : s.isCut w.now = false)
      (begins : s.BeginsAfter (r.fallbackOrder.map (·.provider)) [] 0 nodes ⟨w, .empty⟩ done
        place n st) :
      Moment s w r done st.context
  | ended : Moment s w r (Visit.finishedAll (s.history w r)) (s.execute w r).1.context

/-- At every moment the context is what the steps that have ended have written. -/
theorem Moment.context_eq {s : Surroundings} {w : World} {r : Recipe} {done : List Visit}
    {c : Context} (h : s.Moment w r done c) : c = done.foldl Visit.write .empty := by
  cases h with
  | begun _ _ begins => exact begins.context_eq
  | ended => exact s.context_execute w r

end Surroundings

/-! ## Reading back -/

namespace Visit

/-- Of the steps that have ended, the last one to store something under the key has stored this
value. -/
def Stored (key : String) (x : Value) (done : List Visit) : Prop :=
  ∃ before v since, done = before ++ v :: since ∧ v.written? key = some x ∧
    ∀ u ∈ since, u.written? key = none

theorem get?_of_stored {key : String} {x : Value} {done : List Visit} (h : Stored key x done)
    (c : Context) : (done.foldl write c).get? key = some x := by
  obtain ⟨before, v, since, rfl, hv, hsince⟩ := h
  have hnone : since.filterMap (written? key) = [] := List.filterMap_eq_nil_iff.2 hsince
  rw [get?_foldl_write, List.filterMap_append, List.filterMap_cons_some hv, hnone]
  simp

/-- Steps that store nothing under the first word of a path change nothing for it. -/
theorem resolve_foldl_write {vs : List Visit} {path : String}
    (h : ∀ v ∈ vs, v.written? (Context.keyOf path) = none) (c : Context) :
    (vs.foldl write c).resolve path = c.resolve path := by
  apply Context.resolve_congr
  rw [get?_foldl_write, List.filterMap_eq_nil_iff.2 h]
  simp

end Visit

namespace Surroundings

/-- A recipe that stores the empty text under a key. -/
def storing (key : String) : Recipe :=
  ⟨1.0, [⟨"formatResponse", some key, false, [("template", .text "")]⟩], []⟩

/-- The world in which nothing is installed. -/
def nothingInstalled : World := ⟨0, .empty .standard, [], []⟩

theorem decode_storing (key : String) :
    Node.decode nothingInstalled.catalog.hasAction unanswered.config.maxDepth (storing key).steps
      = .ok [.plain ⟨"formatResponse", some key, false⟩ (.format "")] := by
  rfl

theorem perform_format_empty (s : Surroundings) (ctx : Context) (w : World) :
    s.perform ctx w (.format "") = (.ok (.text "", none), w) := by
  have hrender : ctx.render s.config.unresolved "" = .ok "" :=
    ctx.render_escapeString s.config.unresolved ""
  rw [perform, hrender]
  rfl

theorem history_storing (key : String) :
    unanswered.history nothingInstalled (storing key)
      = [.plain ⟨[], 0⟩ ⟨"formatResponse", some key, false⟩ (.ok (.next (.text "")))] := by
  have hended (fallbacks : List String) : (unanswered.runNode fallbacks ⟨[], 0⟩
      (.plain ⟨"formatResponse", some key, false⟩ (.format "")) ⟨nothingInstalled, .empty⟩).1
        = .ok (.next (.text "")) := by
    rw [runNode, attempt, perform_format_empty]
    rfl
  have hgoes : unanswered.isCut nothingInstalled.now = false := rfl
  unfold history
  rw [decode_storing]
  simp only [hgoes, Bool.false_eq_true, if_false]
  rw [visits, visit, hended]
  split <;> rfl

/-- **Reading back.**  What a step has stored under a key is what the path of this name leads to, at
every later moment until something is stored there again, exactly if the name of the key has no
points.  What is stored under a key with points no path leads to.  Storing under a key changes
nothing for the paths whose first word is another one, and so steps that store nothing under the
first word of a path leave what it leads to. -/
theorem reads_back_iff (key : String) :
    ((∀ s w r done c x, Moment s w r done c → Visit.Stored key x done → c.resolve key = some x) ↔
      '.' ∉ key.toList) ∧
    (∀ (c : Context) (v : Value),
      (c.assign key v).resolve key = some v ↔ '.' ∉ key.toList ∨ c.resolve key = some v) ∧
    ('.' ∈ key.toList → ∀ (c : Context) (v : Value) (path : String),
      (c.assign key v).resolve path = c.resolve path) ∧
    (∀ (c : Context) (v : Value) (path : String), Context.keyOf path ≠ key →
      (c.assign key v).resolve path = c.resolve path) ∧
    (∀ s w r before between c d path, Moment s w r before c → Moment s w r (before ++ between) d →
      (∀ u ∈ between, u.written? (Context.keyOf path) = none) →
      d.resolve path = c.resolve path) := by
  refine ⟨⟨?points, ?visible⟩, fun c v => c.resolve_assign_self_iff key v, ?unread, ?write,
    ?run⟩
  case points =>
    intro hvisible
    have hmoment := Moment.ended (s := unanswered) (w := nothingInstalled) (r := storing key)
    have hstored : Visit.Stored key (.text "")
        (Visit.finishedAll (unanswered.history nothingInstalled (storing key))) := by
      rw [history_storing]
      refine ⟨[], _, [], rfl, ?_, ?_⟩
      · simp [Visit.written?, Visit.head, Visit.value?, Visit.ended, Except.toOption, Flow.value]
      · simp
    have hread := hvisible _ _ _ _ _ _ hmoment hstored
    have hcontext : (unanswered.execute nothingInstalled (storing key)).1.context
        = Context.empty.assign key (.text "") := by
      rw [context_execute, history_storing]
      rfl
    rw [hcontext, Context.resolve_assign_self_iff] at hread
    rcases hread with hpoint | hnone
    · exact hpoint
    · rw [Context.resolve_eq] at hnone
      cases hnone
  case visible =>
    intro hpoint s w r done c x hmoment hstored
    rw [Context.resolve_of_no_point hpoint, hmoment.context_eq]
    exact Visit.get?_of_stored hstored .empty
  case unread =>
    intro hpoint c v path
    exact Context.resolve_assign_of_point hpoint c v path
  case write =>
    intro c v path hpath
    exact Context.resolve_assign_of_ne hpath c v
  case run =>
    intro s w r before between c d path hc hd hnone
    rw [hc.context_eq, hd.context_eq, List.foldl_append]
    exact Visit.resolve_foldl_write hnone _

/-- A recipe that stores a text under a key with a point and reads it back. -/
def rereading : Recipe :=
  ⟨1.0, [⟨"formatResponse", some "a.b", false, [("template", .text "hello")]⟩,
    ⟨"formatResponse", none, false, [("template", .text "${a.b}")]⟩], []⟩

/-- The text stands in the context, but its path leads nowhere, and the step that reads it finds the
reference only. -/
theorem pointed_key_unread :
    let ended := (unanswered.execute nothingInstalled rereading).1
    (ended.context.get? "a.b").map Value.written = some "\"hello\"" ∧
      (ended.context.resolve "a.b").isNone = true ∧
      ended.result.toOption.map Value.written = some "\"${a.b}\"" := by
  refine ⟨?_, ?_, ?_⟩ <;> decide +kernel

end Surroundings

end Planwright
