import Planwright.Proofs.Execution.Trace

set_option autoImplicit false

/-!
# What steps write

The context of an execution begins empty, and each step that is completed writes its result to it
when it ends.  So the context at the end holds, under each key, what the last completed step that
names this key has written, and nothing else (`context_written`).  Nothing is written by a step that
fails; what stands in the context then was written by steps of its branch
(`context_of_runNode_eq_error`).
-/

namespace Planwright

namespace Visit

/-! ## Keys -/

/-- What a step has written under a key. -/
def written? (key : String) (v : Visit) : Option Value :=
  if v.head.assignTo = some key then v.value? else none

theorem get?_write (c : Context) (v : Visit) (key : String) :
    (v.write c).get? key = (v.written? key).or (c.get? key) := by
  unfold write written?
  cases hkey : v.head.assignTo with
  | none => simp
  | some other =>
      cases hvalue : v.value? with
      | none => simp
      | some x =>
          by_cases hsame : other = key
          · subst hsame
            simp
          · simp [hsame, Context.get?_assign_of_ne c (Ne.symm hsame) x]

/-- After several steps a key has the value that the last of them has written, or that it had
before. -/
theorem get?_foldl_write (vs : List Visit) (c : Context) (key : String) :
    (vs.foldl write c).get? key = (vs.filterMap (written? key)).getLast?.or (c.get? key) := by
  induction vs generalizing c with
  | nil => rfl
  | cons v vs ih =>
      rw [List.foldl_cons, ih, get?_write]
      cases hwritten : v.written? key with
      | none => rw [List.filterMap_cons_none hwritten, Option.none_or]
      | some x =>
          rw [List.filterMap_cons_some hwritten, List.getLast?_cons]
          cases (vs.filterMap (written? key)).getLast? <;> rfl

/-- The same steps were begun and have ended. -/
theorem mem_finished_iff (u : Visit) :
    (∀ v : Visit, u ∈ v.finished ↔ u ∈ v.begun) ∧
    ∀ vs : List Visit, u ∈ finishedAll vs ↔ u ∈ begunAll vs := by
  refine Visit.induction ?plain ?branch ?nil ?cons
  case plain =>
    intro place head ended
    exact Iff.rfl
  case branch =>
    intro place head side inner ended ih
    rw [finished, begun, List.mem_append, List.mem_singleton, List.mem_cons, ih, or_comm]
  case nil => exact Iff.rfl
  case cons =>
    intro v vs hv hvs
    rw [finishedAll, begunAll, List.mem_append, List.mem_append, hv, hvs]

theorem isSome_written?_iff {key : String} {v : Visit} :
    (v.written? key).isSome ↔ v.head.assignTo = some key ∧ v.ended.isOk = true := by
  unfold written? value?
  split
  · next hkey => cases v.ended <;> simp [hkey, Except.toOption]
  · next hkey => simp [hkey]

/-- A key has a value after steps that began without one if a completed step names it. -/
theorem isSome_get?_iff (vs : List Visit) (key : String) :
    (((finishedAll vs).foldl write .empty).get? key).isSome ↔
      ∃ v ∈ begunAll vs, v.head.assignTo = some key ∧ v.ended.isOk = true := by
  have hempty : Context.empty.get? key = none := rfl
  rw [get?_foldl_write, hempty, Option.or_none, List.getLast?_isSome]
  constructor
  · intro hne
    obtain ⟨x, hx⟩ := List.exists_mem_of_ne_nil _ hne
    obtain ⟨v, hv, hwritten⟩ := List.mem_filterMap.1 hx
    exact ⟨v, ((mem_finished_iff v).2 vs).1 hv,
      isSome_written?_iff.1 (Option.isSome_iff_exists.2 ⟨x, hwritten⟩)⟩
  · rintro ⟨v, hv, hdone⟩
    obtain ⟨x, hwritten⟩ := Option.isSome_iff_exists.1 (isSome_written?_iff.2 hdone)
    exact List.ne_nil_of_mem
      (List.mem_filterMap.2 ⟨v, ((mem_finished_iff v).2 vs).2 hv, hwritten⟩)

/-! ## Completed steps -/

theorem Shows.completed_iff {v : Visit} {t : StepTrace} (h : v.Shows t) :
    (t.status = .completed ∨ t.status = .completedViaFallback) ↔ v.ended.isOk = true := by
  cases hended : v.ended with
  | ok flow =>
      rcases h.done flow hended with hstatus | ⟨hstatus, -⟩ <;> simp [hstatus]
  | error stop => simp [(h.failed stop hended).1]

/-- A conditional that succeeds has the result of its branch. -/
theorem value_of_branch {place : Place} {head : StepHead} {b : Bool} {inner : List Visit}
    {flow : Flow} (h : (Visit.branch place head (.ok b) inner (.ok flow)).Coherent) :
    flow.value = lastValue inner := by
  obtain ⟨flow', hend, rfl⟩ := Fallible.map_eq_ok.1 h.2.symm
  rw [Flow.value_after, value_of_endOf hend]

end Visit

/-! ## Executions -/

/-- What a context holds is what the completed steps of a recipe have written: `listed` is the
outline of the recipe, `history` has the steps that were begun, with their results, and `trace` has
their entries. -/
structure Written (listed : List (Place × Step)) (history : List Visit) (trace : List StepTrace)
    (context : Context) : Prop where
  shown : List.Forall₂ Visit.Shows (Visit.begunAll history) trace
  /-- a key has a value if it is that of a step whose entry says that it was completed -/
  keys : ∀ key, (context.get? key).isSome ↔
    ∃ t ∈ trace, (t.status = .completed ∨ t.status = .completedViaFallback) ∧
      ∃ e ∈ listed, e.1.text = t.path ∧ e.2.assignTo = some key
  /-- the value is the result of the last such step to end -/
  values : ∀ key, context.get? key
    = ((Visit.finishedAll history).filterMap (Visit.written? key)).getLast?
  /-- a conditional has the result of its branch -/
  branches : ∀ place head b inner flow,
    Visit.branch place head (.ok b) inner (.ok flow) ∈ Visit.begunAll history →
      flow.value = Visit.lastValue inner

namespace Surroundings

/-- A step that was begun is one of the outline. -/
theorem exists_listed {vs : List Visit} {listed : List (Place × Step)}
    (h : (vs.map fun v => (v.place, v.head)).Sublist (listed.map fun e => (e.1, e.2.head)))
    {v : Visit} (hv : v ∈ vs) : ∃ e ∈ listed, e.1 = v.place ∧ e.2.head = v.head := by
  obtain ⟨e, he, hsame⟩ := List.mem_map.1 (h.subset (List.mem_map_of_mem hv))
  obtain ⟨hplace, hhead⟩ := Prod.mk.inj hsame
  exact ⟨e, he, hplace, hhead⟩

theorem context_execute (s : Surroundings) (w : World) (r : Recipe) :
    (s.execute w r).1.context
      = (Visit.finishedAll (s.history w r)).foldl Visit.write .empty :=
  (s.accounts_history w r).context

/-- A step that fails or is interrupted writes nothing: the context is the one that the steps begun
in its branch have left. -/
theorem context_of_runNode_eq_error {s : Surroundings} {fallbacks : List String} {place : Place}
    {n : Node} {st : RunState} {stop : Stop}
    (h : (s.runNode fallbacks place n st).1 = .error stop) :
    (s.runNode fallbacks place n st).2.2.context
      = (Visit.finishedAll (s.visit fallbacks place n st).inner).foldl Visit.write st.context := by
  have hvalue : (s.visit fallbacks place n st).value? = none := by
    rw [Visit.value?, ended_visit, h]
    rfl
  have hwrite (c : Context) : (s.visit fallbacks place n st).write c = c := by
    unfold Visit.write
    rw [hvalue]
    cases (s.visit fallbacks place n st).head.assignTo <;> rfl
  have haccounts : Visit.Accounts st (s.runNode fallbacks place n st)
      [s.visit fallbacks place n st] := accounts_visits.1 n place st
  have hcontext := haccounts.context
  rw [Visit.finishedAll_singleton, List.foldl_append, List.foldl_cons, List.foldl_nil,
    hwrite] at hcontext
  exact hcontext

/-- A key has a value at the end of an execution if the trace has a completed step that names it. -/
theorem isSome_get?_context_iff {s : Surroundings} {w : World} {r : Recipe}
    {listed : List (Place × Step)} (houtline : Step.Outline [] 0 r.steps listed)
    (hsub : ((Visit.begunAll (s.history w r)).map fun v => (v.place, v.head)).Sublist
      (listed.map fun e => (e.1, e.2.head))) (key : String) :
    ((s.execute w r).1.context.get? key).isSome ↔
      ∃ t ∈ (s.execute w r).1.steps,
        (t.status = .completed ∨ t.status = .completedViaFallback) ∧
        ∃ e ∈ listed, e.1.text = t.path ∧ e.2.assignTo = some key := by
  have hshown := s.shown_steps w r
  rw [context_execute, Visit.isSome_get?_iff]
  constructor
  · rintro ⟨v, hv, hkey, hended⟩
    obtain ⟨t, ht, hshows⟩ := Correspondence.exists_right hshown hv
    obtain ⟨e, he, hplace, hhead⟩ := exists_listed hsub hv
    refine ⟨t, ht, hshows.completed_iff.2 hended, e, he, by rw [hplace, hshows.path], ?_⟩
    rw [← hkey, ← hhead]
    rfl
  · rintro ⟨t, ht, hstatus, e, he, hpath, hkey⟩
    obtain ⟨v, hv, hshows⟩ := Correspondence.exists_left hshown ht
    obtain ⟨e', he', hplace, hhead⟩ := exists_listed hsub hv
    have hsame : e = e' := by
      refine List.inj_on_of_nodup_map houtline.texts_nodup he he' ?_
      rw [hpath, hshows.path, hplace]
    refine ⟨v, hv, ?_, hshows.completed_iff.1 hstatus⟩
    rw [← hhead, ← hkey, hsame]
    rfl

/-- **Writes.**  However an execution of a recipe that is read ends, its context holds what its
completed steps have written, each key the result of the last of them to end; and a step that does
not succeed writes nothing itself, at whatever point of its attempts it stops. -/
theorem context_written (s : Surroundings) (w : World) (r : Recipe) {nodes : List Node}
    (hread : Node.decode w.catalog.hasAction s.config.maxDepth r.steps = .ok nodes) :
    (∃ listed, Step.Outline [] 0 r.steps listed ∧
      Written listed (s.history w r) (s.execute w r).1.steps (s.execute w r).1.context) ∧
    ∀ fallbacks place n st stop, (s.runNode fallbacks place n st).1 = .error stop →
      (s.runNode fallbacks place n st).2.2.context
        = (Visit.finishedAll (s.visit fallbacks place n st).inner).foldl Visit.write
            st.context := by
  refine ⟨?_, fun _ _ _ _ _ h => context_of_runNode_eq_error h⟩
  obtain ⟨listed, houtline, hsub⟩ := exists_outline_of_decode hread
  refine ⟨listed, houtline, s.shown_steps w r, ?keys, ?values, ?branches⟩
  case keys => exact isSome_get?_context_iff houtline hsub
  case values =>
    intro key
    rw [context_execute, Visit.get?_foldl_write]
    exact Option.or_none
  case branches =>
    intro place head b inner flow hmem
    exact Visit.value_of_branch
      ((Visit.coherent_of_mem_begun _).2 _ _ _ (s.coherentAll_history w r) hmem)

/-- A recipe in which a conditional and a step of its branch write to one key, and that fails after
them. -/
def writtenTwice : Recipe :=
  ⟨1.0,
    [⟨"conditional", some "answer", false,
        [("condition", .bool true),
          ("ifTrue", .list
            [.object
                [("assignTo", .text "answer"), ("template", .text "draft"),
                  ("type", .text "formatResponse")],
              .object [("template", .text "final"), ("type", .text "formatResponse")]])]⟩,
      ⟨"error", some "fault", false, [("message", .text "out of stock")]⟩],
    []⟩

theorem context_written_twice :
    ((unanswered.execute ⟨7, .empty .standard, [], []⟩ writtenTwice).1.context.values.map
        fun e => (e.1, e.2.written))
      = [("answer", "\"final\"")] ∧
    (∃ listed, Step.Outline [] 0 writtenTwice.steps listed ∧
      Written listed (unanswered.history ⟨7, .empty .standard, [], []⟩ writtenTwice)
        (unanswered.execute ⟨7, .empty .standard, [], []⟩ writtenTwice).1.steps
        (unanswered.execute ⟨7, .empty .standard, [], []⟩ writtenTwice).1.context) ∧
    ∀ fallbacks place n st stop, (unanswered.runNode fallbacks place n st).1 = .error stop →
      (unanswered.runNode fallbacks place n st).2.2.context
        = (Visit.finishedAll (unanswered.visit fallbacks place n st).inner).foldl Visit.write
            st.context :=
  ⟨by decide +kernel,
    context_written unanswered ⟨7, .empty .standard, [], []⟩ writtenTwice rfl⟩

end Surroundings

end Planwright
