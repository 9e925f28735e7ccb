import Mathlib.Data.List.Perm.Basic
import Planwright.Proofs.Execution.FanOut

set_option autoImplicit false

/-!
# Joining the tasks of calls in parallel

Of calls in parallel, each one that can be prepared has a task of its own, and its place holds a
*stand-in*, a failure for the case that nothing else is ever put there.  The tasks are joined, each
time whichever ends next, until none is left, and what a task has come to is put in the place of its
call.  A task in which the transport panics comes to nothing; its place is found by the number of
the task, and gets another stand-in.

When no task is left, a place holds a stand-in if the transport of its call has panicked, and only
then, whatever the order in which the tasks have ended (`joined_eq`).  So if nothing panics then the
step comes to what became of its calls, and no stand-in is left (`joinParallel_eq`).
-/

namespace Planwright

open Fallible

/-! ## Places and tasks -/

/-- A failure that stands in for what becomes of a call. -/
inductive StandIn where
  /-- the task of the call was not joined -/
  | unfinished (index : Nat)
  /-- the task of the call was aborted -/
  | aborted (index : Nat) (cause : String)
  deriving DecidableEq, Repr, Inhabited

/-- The wording of a stand-in. -/
def StandIn.failure : StandIn → Failure
  | .unfinished index => .plain .unknown ("branch " ++ toString index ++ " did not complete")
  | .aborted index cause =>
    .plain .unknown ("branch " ++ toString index ++ " did not complete: " ++ cause)

/-- What the place of a call holds: what became of the call, or a stand-in. -/
abbrev Held : Type := Except StandIn (Except Failure Value)

namespace Held

/-- What the place counts as. -/
def result : Held → Except Failure Value
  | .ok r => r
  | .error standIn => .error standIn.failure

/-- The stand-in that the place holds. -/
def standIn? : Held → Option StandIn
  | .ok _ => none
  | .error standIn => some standIn

end Held

/-- A call of several: refused when it is prepared, or with a task of its own, which comes to what
becomes of the call. -/
abbrev Fork : Type := Except Failure (Except Failure Value)

/-- What becomes of the call. -/
def Fork.result : Fork → Except Failure Value
  | .error f => .error f
  | .ok r => r

/-- How a task ends. -/
inductive TaskEnd where
  /-- with what became of the call at an index -/
  | finished (index : Nat) (result : Except Failure Value)
  /-- the task of this number is aborted -/
  | aborted (task : Nat) (cause : String)

namespace Joining

variable (forks : List Fork) (panics : Nat → Option String)

/-- What the places hold before a task is joined. -/
def opening : List Held :=
  forks.mapIdx fun index fork =>
    match fork with
    | .error f => .ok (.error f)
    | .ok _ => .error (.unfinished index)

/-- The tasks in the order of their numbers, each with the index of its call and what becomes of
this. -/
def tasks : List (Nat × Except Failure Value) :=
  forks.zipIdx.filterMap fun x => x.1.toOption.map fun r => (x.2, r)

/-- The index of the call that the task of a number is for. -/
def indexOf? (task : Nat) : Option Nat := (tasks forks)[task]?.map (·.1)

/-- How the task of a number ends. -/
def endOf (task : Nat) (x : Nat × Except Failure Value) : TaskEnd :=
  match panics x.1 with
  | none => .finished x.1 x.2
  | some cause => .aborted task cause

/-- How the tasks end, in the order of their numbers. -/
def ends : List TaskEnd := (tasks forks).mapIdx (endOf panics)

/-- A task is joined. -/
def join (held : List Held) : TaskEnd → List Held
  | .finished index r => held.set index (.ok r)
  | .aborted task cause =>
    match indexOf? forks task with
    | some index => held.set index (.error (.aborted index cause))
    | none => held

/-- Tasks in the order in which they are joined: of so many that are left, always the one at the
position that `next` says. -/
def inOrder (next : Nat → Nat) : Nat → List TaskEnd → List TaskEnd
  | 0, _ => []
  | left + 1, ends =>
    match ends[next left % ends.length]? with
    | some e => e :: inOrder next left (ends.eraseIdx (next left % ends.length))
    | none => []

/-- What the places hold when no task is left. -/
def joined (next : Nat → Nat) : List Held :=
  (inOrder next (ends forks panics).length (ends forks panics)).foldl (join forks) (opening forks)

/-! ## Every order -/

/-- Each task is joined exactly once. -/
theorem perm_inOrder (next : Nat → Nat) (left : Nat) {ends : List TaskEnd}
    (h : ends.length = left) : (inOrder next left ends).Perm ends := by
  induction left generalizing ends with
  | zero =>
      rw [List.eq_nil_of_length_eq_zero h]
      exact .refl _
  | succ left ih =>
      have hlt : next left % ends.length < ends.length := Nat.mod_lt _ (by omega)
      have hrest : (ends.eraseIdx (next left % ends.length)).length = left := by
        rw [List.length_eraseIdx_of_lt hlt]
        omega
      rw [inOrder, List.getElem?_eq_getElem hlt]
      exact ((ih hrest).cons _).trans (List.getElem_cons_eraseIdx_perm hlt)

/-- What the place of a call holds when its task has been joined. -/
def heldAt (index : Nat) : Fork → Held
  | .error f => .ok (.error f)
  | .ok r =>
    match panics index with
    | none => .ok r
    | some cause => .error (.aborted index cause)

/-- A task that ends so puts something in a place. -/
def Puts (e : TaskEnd) (index : Nat) (content : Held) : Prop :=
  ∀ held, join forks held e = held.set index content

variable {forks} {panics}

theorem mem_tasks_iff {index : Nat} {r : Except Failure Value} :
    (index, r) ∈ tasks forks ↔ forks[index]? = some (.ok r) := by
  simp only [tasks, List.mem_filterMap, Prod.exists, List.mk_mem_zipIdx_iff_getElem?]
  constructor
  · rintro ⟨fork, i, hfork, htask⟩
    obtain ⟨r', hr', hpair⟩ := Option.map_eq_some_iff.1 htask
    obtain ⟨rfl, rfl⟩ := Prod.mk.inj hpair
    rw [hfork, eq_ok_of_toOption hr']
  · intro hfork
    exact ⟨.ok r, index, hfork, rfl⟩

/-- A task puts in the place of its call what belongs there. -/
theorem puts_endOf {task : Nat} {x : Nat × Except Failure Value}
    (h : (tasks forks)[task]? = some x) :
    Puts forks (endOf panics task x) x.1 (heldAt panics x.1 (.ok x.2)) := by
  intro held
  have hindex : indexOf? forks task = some x.1 := by rw [indexOf?, h, Option.map_some]
  unfold endOf heldAt
  cases panics x.1 with
  | none => rfl
  | some cause => rw [join, hindex]

theorem mem_ends_iff {e : TaskEnd} :
    e ∈ ends forks panics ↔ ∃ task x, (tasks forks)[task]? = some x ∧ endOf panics task x = e := by
  rw [ends, List.mem_mapIdx]
  constructor
  · rintro ⟨task, hlt, he⟩
    exact ⟨task, _, List.getElem?_eq_getElem hlt, he⟩
  · rintro ⟨task, x, hx, he⟩
    obtain ⟨hlt, rfl⟩ := List.getElem?_eq_some_iff.1 hx
    exact ⟨task, hlt, he⟩

/-- A place that holds what it is to hold in the end, or will get it from a task that is still to be
joined, holds it when all these tasks are joined: no other task puts anything else there. -/
theorem getElem?_foldl_join {final held : List Held} (hlength : held.length = final.length)
    {order : List TaskEnd}
    (hputs : ∀ e ∈ order, ∃ index content, final[index]? = some content ∧
      Puts forks e index content) {j : Nat}
    (hplace : held[j]? = final[j]? ∨
      ∃ e ∈ order, ∃ content, final[j]? = some content ∧ Puts forks e j content) :
    (order.foldl (join forks) held)[j]? = final[j]? := by
  induction order generalizing held with
  | nil =>
      rcases hplace with hheld | ⟨e, he, -⟩
      · exact hheld
      · exact absurd he List.not_mem_nil
  | cons e order ih =>
      obtain ⟨⟨index, content, hfinal, hput⟩, hrest⟩ := List.forall_mem_cons.1 hputs
      have hjoined : (join forks held e).length = final.length := by
        rw [hput, List.length_set, hlength]
      have hset {i : Nat} {c : Held} (hc : final[i]? = some c) :
          (held.set i c)[i]? = final[i]? := by
        have hlt : i < held.length := hlength ▸ (List.getElem?_eq_some_iff.1 hc).1
        rw [List.getElem?_set_self hlt, hc]
      apply ih hjoined hrest
      rcases hplace with hheld | ⟨other, hother, c, hc, hputj⟩
      · left
        rw [hput]
        by_cases hij : index = j
        · subst hij
          exact hset hfinal
        · rw [List.getElem?_set_ne hij, hheld]
      · rcases List.mem_cons.1 hother with rfl | hmem
        · left
          rw [hputj, hset hc]
        · right
          exact ⟨other, hmem, c, hc, hputj⟩

variable (forks panics)

/-- **All tasks joined.**  In whatever order the tasks end, a place holds in the end what became of
its call, unless the transport of this call has panicked. -/
theorem joined_eq (next : Nat → Nat) :
    joined forks panics next = forks.mapIdx (heldAt panics) := by
  have hperm : (inOrder next (ends forks panics).length (ends forks panics)).Perm
      (ends forks panics) := perm_inOrder next _ rfl
  refine List.ext_getElem? fun j => ?_
  apply getElem?_foldl_join
  · rw [opening, List.length_mapIdx, List.length_mapIdx]
  · intro e he
    obtain ⟨task, x, hx, rfl⟩ := mem_ends_iff.1 (hperm.mem_iff.1 he)
    have hfork : forks[x.1]? = some (.ok x.2) := mem_tasks_iff.1 (List.mem_of_getElem? hx)
    refine ⟨x.1, _, ?_, puts_endOf hx⟩
    rw [List.getElem?_mapIdx, hfork, Option.map_some]
  · rw [opening, List.getElem?_mapIdx, List.getElem?_mapIdx]
    cases hfork : forks[j]? with
    | none => exact .inl rfl
    | some fork =>
        cases fork with
        | error f => exact .inl rfl
        | ok r =>
            obtain ⟨task, hx⟩ := List.getElem?_of_mem (mem_tasks_iff.2 hfork)
            right
            exact ⟨_, hperm.mem_iff.2 (mem_ends_iff.2 ⟨task, _, hx, rfl⟩), _, rfl, puts_endOf hx⟩

/-- If nothing panics then every place holds what became of its call. -/
theorem joined_of_no_panic (hpanics : ∀ index, panics index = none) (next : Nat → Nat) :
    joined forks panics next = forks.map fun fork => .ok fork.result := by
  rw [joined_eq]
  refine List.ext_getElem? fun j => ?_
  rw [List.getElem?_mapIdx, List.getElem?_map]
  refine congrArg (Option.map · forks[j]?) (funext fun fork => ?_)
  cases fork with
  | error f => rfl
  | ok r => rw [heldAt, hpanics, Fork.result]

end Joining

/-! ## The step -/

namespace Surroundings

variable (s : Surroundings) (ctx : Context)

/-- The calls of a step in parallel, each with what it comes to. -/
def forks (w : World) (calls : List ApiCall) : List Fork :=
  let prepared := calls.map fun c => c.prepare s.config.unresolved ctx w
  List.zipWith (fun p slot => p.map fun _ => Slot.result slot) prepared
    (s.launchAll w prepared).1

/-- The flights of the calls whose transport does not panic. -/
def unbroken (panics : Nat → Option String) (slots : List Slot) : List Flight :=
  slots.zipIdx.filterMap fun x => if (panics x.2).isSome then none else x.1.flight?

/-- Makes calls in parallel, with a task for each that can be prepared, and gives besides the
stand-ins that are left.  If the caller gives up meanwhile then nobody looks at the places. -/
def joinParallel (next : Nat → Nat) (panics : Nat → Option String) (w : World)
    (calls : List ApiCall) : Ended Value × World × List StandIn :=
  let held := Joining.joined (s.forks ctx w calls) panics next
  let (slots, w) := s.launchAll w (calls.map fun c => c.prepare s.config.unresolved ctx w)
  let flights := unbroken panics slots
  let finish := lastLanding w.now (slots.filterMap Slot.flight?)
  if s.cutsBefore finish then
    (.error .interrupted,
      s.interrupt ((flights.filter fun f => !s.cutsBefore f.landsAt).foldl World.land w), [])
  else
    (.of (parallelResult (held.map Held.result)), (flights.foldl World.land w).at_ finish,
      held.filterMap Held.standIn?)

theorem unbroken_of_no_panic {panics : Nat → Option String} (h : ∀ index, panics index = none)
    (slots : List Slot) : unbroken panics slots = slots.filterMap Slot.flight? := by
  have hall (x : Slot × Nat) :
      (if (panics x.2).isSome then none else x.1.flight?) = x.1.flight? := by
    rw [h, Option.isSome_none, if_neg Bool.false_ne_true]
  calc unbroken panics slots = slots.zipIdx.filterMap fun x => x.1.flight? := by
        simp only [unbroken, hall]
    _ = (slots.zipIdx.map Prod.fst).filterMap Slot.flight? := by
        rw [List.filterMap_map]
        rfl
    _ = slots.filterMap Slot.flight? := by rw [List.zipIdx_map_fst]

/-- A call that cannot be prepared is refused, and so what becomes of the calls is what the tasks
and the refusals come to. -/
theorem map_result_forks (w : World) (calls : List ApiCall) :
    (s.forks ctx w calls).map Fork.result
      = (s.launchAll w (calls.map fun c => c.prepare s.config.unresolved ctx w)).1.map
          Slot.result := by
  unfold forks
  dsimp only
  generalize calls.map (fun c => c.prepare s.config.unresolved ctx w) = prepared
  induction prepared generalizing w with
  | nil => rfl
  | cons p rest ih =>
      cases p with
      | error f =>
          rw [launchAll]
          exact congrArg _ (ih w)
      | ok p =>
          rw [launchAll]
          exact congrArg _ (ih _)

/-- **Joining makes no difference.**  If no transport panics then the step comes to the same in
whatever order the tasks end, and no stand-in is left. -/
theorem joinParallel_eq (next : Nat → Nat) {panics : Nat → Option String}
    (hpanics : ∀ index, panics index = none) (w : World) (calls : List ApiCall) :
    s.joinParallel ctx next panics w calls
      = ((s.callParallel ctx w calls).1, (s.callParallel ctx w calls).2, []) := by
  unfold joinParallel callParallel
  rw [Joining.joined_of_no_panic _ _ hpanics]
  dsimp only
  rw [unbroken_of_no_panic hpanics]
  split
  · rfl
  · have hresults :
        ((s.forks ctx w calls).map fun fork => (.ok fork.result : Held)).map Held.result
          = (s.forks ctx w calls).map Fork.result := by
      rw [List.map_map]
      rfl
    have hnone :
        ((s.forks ctx w calls).map fun fork => (.ok fork.result : Held)).filterMap Held.standIn?
          = [] := by
      rw [List.filterMap_map]
      exact List.filterMap_eq_nil_iff.2 fun _ _ => rfl
    rw [hresults, hnone, map_result_forks]

end Surroundings

end Planwright
