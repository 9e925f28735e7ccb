import Planwright.Proofs.Execution.Writes

set_option autoImplicit false

/-!
# Ending a recipe early

A step that is marked to end the recipe ends it from any depth: once it is completed no step is
begun, and every conditional around it is completed with its result.  If no such step is completed
and nothing fails then every step of the recipe is run, and of each conditional every step of the
branch taken, and the last one gives the result (`early_return`).
-/

namespace Planwright

theorem Flow.after_true (flow : Flow) : flow.after true = .returned flow.value := by
  cases flow <;> rfl

/-- A step that lets the others go on ends them only if it is marked so. -/
theorem Flow.returns_of_after {returns : Bool} {v x : Value}
    (h : (Flow.next v).after returns = .returned x) : returns = true := by
  cases returns with
  | true => rfl
  | false => cases h

namespace Visit

/-! ## Steps that end the others -/

/-- What was begun inside a step of several was begun in these. -/
theorem mem_begun_trans {u c : Visit} (hu : u ∈ begunAll c.inner) :
    (∀ v : Visit, c ∈ v.begun → u ∈ v.begun) ∧
    ∀ vs : List Visit, c ∈ begunAll vs → u ∈ begunAll vs := by
  refine Visit.induction ?plain ?branch ?nil ?cons
  case plain =>
    intro place head ended hc
    obtain rfl := List.mem_singleton.1 hc
    exact absurd hu List.not_mem_nil
  case branch =>
    intro place head side inner ended ih hc
    rcases List.mem_cons.1 hc with rfl | hmem
    · exact List.mem_cons_of_mem _ hu
    · exact List.mem_cons_of_mem _ (ih hmem)
  case nil =>
    intro hc
    exact absurd hc List.not_mem_nil
  case cons =>
    intro v vs hv hvs hc
    rcases List.mem_append.1 hc with hmem | hmem
    · exact List.mem_append_left _ (hv hmem)
    · exact List.mem_append_right _ (hvs hmem)

/-- A step has ended all others with a value: nothing was begun after it but what was begun in it,
and it and the conditionals around it were the last to end, all of them with this value. -/
structure Ends (u : Visit) (x : Value) (begun finished : List Visit) : Prop where
  last : u.begun <:+ begun
  outward : ∃ before after, finished = before ++ after ∧
    (∀ c ∈ after, c.ended = .ok (.returned x)) ∧ u ∈ after ∧
      ∀ c ∈ begun, u ∈ begunAll c.inner → c ∈ after

theorem ends_self {u : Visit} {x : Value} (hended : u.ended = .ok (.returned x))
    (hinner : u ∉ begunAll u.inner) : u.Ends x u.begun u.finished := by
  refine ⟨List.suffix_refl _, finishedAll u.inner, [u], finished_eq u, ?_,
    List.mem_singleton.2 rfl, ?_⟩
  · intro c hc
    rwa [List.mem_singleton.1 hc]
  · intro c hc hinside
    rw [begun_eq] at hc
    rcases List.mem_cons.1 hc with rfl | hc
    · exact List.mem_singleton.2 rfl
    · exact absurd ((mem_begun_trans hinside).2 _ hc) hinner

/-- A step that ends the steps of a branch ends the conditional. -/
theorem Ends.around {u v : Visit} {x : Value} (hended : v.ended = .ok (.returned x))
    (h : u.Ends x (begunAll v.inner) (finishedAll v.inner)) : u.Ends x v.begun v.finished := by
  obtain ⟨hlast, before, after, hsplit, hinner, hmem, haround⟩ := h
  rw [begun_eq, finished_eq]
  refine ⟨hlast.trans (List.suffix_cons _ _), before, after ++ [v], ?_, ?_,
    List.mem_append_left _ hmem, ?_⟩
  · rw [hsplit, List.append_assoc]
  · intro c hc
    rcases List.mem_append.1 hc with hc | hc
    · exact hinner c hc
    · rwa [List.mem_singleton.1 hc]
  · intro c hc hinside
    rcases List.mem_cons.1 hc with rfl | hc
    · exact List.mem_append_right _ (List.mem_singleton.2 rfl)
    · exact List.mem_append_left _ (haround c hc hinside)

/-- A step that ends others ends all of them if one was completed before. -/
theorem Ends.later {u v : Visit} {x : Value} {vs : List Visit} (hfirst : u ∉ v.begun)
    (h : u.Ends x (begunAll vs) (finishedAll vs)) :
    u.Ends x (begunAll (v :: vs)) (finishedAll (v :: vs)) := by
  obtain ⟨hlast, before, after, hsplit, hended, hmem, haround⟩ := h
  rw [begunAll, finishedAll]
  refine ⟨hlast.trans (List.suffix_append _ _), v.finished ++ before, after, ?_, hended, hmem, ?_⟩
  · rw [hsplit, List.append_assoc]
  · intro c hc hinside
    rcases List.mem_append.1 hc with hc | hc
    · exact absurd ((mem_begun_trans hinside).1 v hc) hfirst
    · exact haround c hc hinside

/-- A step that is marked so ends all others when it is completed. -/
theorem ends_of_returns {u : Visit} {flow : Flow} (hreturns : u.head.returns = true)
    (hended : u.ended = .ok flow) :
    (∀ v : Visit, v.Coherent → u ∈ v.begun →
      v.ended = .ok (.returned flow.value) ∧ u.Ends flow.value v.begun v.finished) ∧
    ∀ (vs : List Visit) around index last, CoherentAll around index vs → u ∈ begunAll vs →
      endOf last vs = .ok (.returned flow.value) ∧
        u.Ends flow.value (begunAll vs) (finishedAll vs) := by
  refine Visit.induction ?plain ?branch ?nil ?cons
  case plain =>
    intro place head ended hcoherent hu
    obtain rfl := List.mem_singleton.1 hu
    replace hreturns : head.returns = true := hreturns
    replace hended : ended = .ok flow := hended
    obtain ⟨x, rfl⟩ := hcoherent flow hended
    rw [Flow.value_after]
    rw [hreturns] at hended
    exact ⟨hended, ends_self hended List.not_mem_nil⟩
  case branch =>
    intro place head side inner ended ih hcoherent hu
    cases side with
    | error f =>
        obtain ⟨rfl, rfl⟩ := hcoherent
        obtain rfl := List.mem_singleton.1 hu
        cases hended
    | ok b =>
        obtain ⟨hinner, hend⟩ := hcoherent
        by_cases hmem : u ∈ begunAll inner
        · obtain ⟨hbranch, hends⟩ := ih _ _ .null hinner hmem
          obtain rfl : ended = .ok (.returned flow.value) := by
            rw [hend, hbranch]
            rfl
          exact ⟨rfl, hends.around rfl⟩
        · -- the conditional itself is the step
          obtain rfl := (List.mem_cons.1 hu).resolve_right hmem
          replace hreturns : head.returns = true := hreturns
          replace hended : ended = .ok flow := hended
          obtain ⟨flow', -, hflow⟩ := Fallible.map_eq_ok.1 (hend.symm.trans hended)
          rw [hreturns, Flow.after_true] at hflow
          have hreturned : ended = .ok (.returned flow.value) := by rw [hended, ← hflow]; rfl
          exact ⟨hreturned, ends_self hreturned hmem⟩
  case nil =>
    intro _ _ _ _ hu
    exact absurd hu List.not_mem_nil
  case cons =>
    intro v vs hv hvs around index last hcoherent hu
    obtain ⟨-, hfirst, hgoes, hrest⟩ := hcoherent
    by_cases hmem : u ∈ v.begun
    · obtain ⟨hreturned, hends⟩ := hv hfirst hmem
      rcases hgoes with rfl | ⟨x, hnext⟩
      · refine ⟨hreturned, ?_⟩
        rw [begunAll, begunAll, finishedAll, finishedAll, List.append_nil, List.append_nil]
        exact hends
      · rw [hreturned] at hnext
        cases hnext
    · have hlater : u ∈ begunAll vs := (List.mem_append.1 hu).resolve_left hmem
      rcases hgoes with rfl | ⟨x, hnext⟩
      · exact absurd hlater List.not_mem_nil
      · obtain ⟨hend, hends⟩ := hvs _ _ x hrest hlater
        exact ⟨(endOf_cons hnext).trans hend, hends.later hmem⟩

/-- If steps in order end the recipe, one that is marked so was completed among them. -/
theorem exists_returns :
    (∀ (v : Visit) x, v.Coherent → v.ended = .ok (.returned x) →
      ∃ u ∈ v.begun, u.head.returns = true ∧ u.ended.isOk = true) ∧
    ∀ (vs : List Visit) around index last x, CoherentAll around index vs →
      endOf last vs = .ok (.returned x) →
        ∃ u ∈ begunAll vs, u.head.returns = true ∧ u.ended.isOk = true := by
  refine Visit.induction ?plain ?branch ?nil ?cons
  case plain =>
    intro place head ended x hcoherent hended
    obtain ⟨v, hflow⟩ := hcoherent _ hended
    exact ⟨_, List.mem_singleton.2 rfl, Flow.returns_of_after hflow.symm, by rw [hended]; rfl⟩
  case branch =>
    intro place head side inner ended ih x hcoherent hended
    replace hended : ended = .ok (.returned x) := hended
    cases side with
    | error f =>
        rw [hcoherent.2] at hended
        cases hended
    | ok b =>
        obtain ⟨hinner, hend⟩ := hcoherent
        obtain ⟨flow, hbranch, hflow⟩ := Fallible.map_eq_ok.1 (hend.symm.trans hended)
        cases flow with
        | returned y =>
            obtain ⟨u, hu, hfound⟩ := ih _ _ .null y hinner hbranch
            exact ⟨u, List.mem_cons_of_mem _ hu, hfound⟩
        | next y =>
            exact ⟨_, List.mem_cons_self, Flow.returns_of_after hflow, by rw [hended]; rfl⟩
  case nil =>
    intro around index last x _ hend
    cases hend
  case cons =>
    intro v vs hv hvs around index last x hcoherent hend
    obtain ⟨-, hfirst, hgoes, hrest⟩ := hcoherent
    rcases hgoes with rfl | ⟨y, hnext⟩
    · obtain ⟨u, hu, hfound⟩ := hv x hfirst hend
      exact ⟨u, List.mem_append_left _ hu, hfound⟩
    · rw [endOf_cons hnext] at hend
      obtain ⟨u, hu, hfound⟩ := hvs _ _ y x hrest hend
      exact ⟨u, List.mem_append_right _ hu, hfound⟩

/-- What the steps that end the others write under a key is the value with which they do. -/
theorem Ends.get?_eq {u c : Visit} {x : Value} {vs : List Visit}
    (h : u.Ends x (begunAll vs) (finishedAll vs)) (hc : c ∈ begunAll vs)
    (hinside : u ∈ begunAll c.inner) {key : String} (hkey : c.head.assignTo = some key)
    (context : Context) : ((finishedAll vs).foldl write context).get? key = some x := by
  obtain ⟨-, before, after, hsplit, hended, -, haround⟩ := h
  have hvalues (d) (hd : d ∈ after) : d.value? = some x := by
    rw [value?, hended d hd]
    rfl
  have hmem : x ∈ after.filterMap (written? key) :=
    List.mem_filterMap.2 ⟨c, haround c hc hinside, by
      rw [written?, if_pos hkey, hvalues c (haround c hc hinside)]⟩
  rw [get?_foldl_write, hsplit, List.filterMap_append, List.getLast?_append]
  cases hlast : (after.filterMap (written? key)).getLast? with
  | none =>
      rw [List.getLast?_eq_none_iff] at hlast
      rw [hlast] at hmem
      cases hmem
  | some y =>
      obtain ⟨d, hd, hwritten⟩ := List.mem_filterMap.1 (List.mem_of_getLast? hlast)
      unfold written? at hwritten
      split at hwritten
      · rw [hvalues d hd] at hwritten
        rw [← hwritten]
        rfl
      · cases hwritten

/-- If steps in order fail, a step that failed was begun among them. -/
theorem exists_failed {vs : List Visit} {last : Value} {stop : Stop}
    (hcoherent : CoherentAll [] 0 vs) (hend : endOf last vs = .error stop) :
    ∃ v ∈ begunAll vs, v.ended.isOk = false := by
  obtain ⟨rest, index, hfailed, -⟩ := failedAlong_begun.2 vs [] 0 last stop hcoherent hend
  have hne : (begunAll vs).filter (fun v => !v.ended.isOk) ≠ [] := by
    intro hnone
    rw [hnone] at hfailed
    simp at hfailed
  obtain ⟨v, hv⟩ := List.exists_mem_of_ne_nil _ hne
  obtain ⟨hmem, hstop⟩ := List.mem_filter.1 hv
  exact ⟨v, hmem, by simpa using hstop⟩

end Visit

/-! ## Steps that are all run -/

/-- The visits are those of all the steps, and of each conditional of all the steps of the branch
taken. -/
inductive Step.Throughout : List Step → List Visit → Prop where
  | nil : Throughout [] []
  | plain {step : Step} {rest : List Step} {later : List Visit} (place : Place) (ended : Ended Flow)
      (op : step.op ≠ Tag.conditional.name) (others : Throughout rest later) :
      Throughout (step :: rest) (.plain place step.head ended :: later)
  | conditional {step : Step} {rest ifTrue ifFalse : List Step} {condition : Value} {b : Bool}
      {inner later : List Visit} (place : Place) (ended : Ended Flow)
      (op : step.op = Tag.conditional.name)
      (branches : Node.rawConditional step.fields = .ok (condition, ifTrue, ifFalse))
      (branch : Throughout (if b then ifTrue else ifFalse) inner) (others : Throughout rest later) :
      Throughout (step :: rest) (.branch place step.head (.ok b) inner ended :: later)

namespace Surroundings

variable {s : Surroundings} {fallbacks : List String}

/-- Steps that are read and let the ones after them go on are all run. -/
theorem throughout_of_next {hasAction : String → Bool} {limit levels : Nat} {steps : List Step}
    {nodes : List Node} (h : Node.decodeWithin hasAction limit levels steps = .ok nodes)
    {around : List (Nat × Bool)} {index : Nat} {last x : Value} {st : RunState}
    (hrun : (s.runNodes fallbacks around index last nodes st).1 = .ok (.next x)) :
    Step.Throughout steps (s.visits fallbacks around index nodes st) := by
  induction levels generalizing steps nodes around index last x st with
  | zero => cases h
  | succ levels ih =>
      induction steps generalizing nodes index last st with
      | nil =>
          obtain rfl := Except.ok.inj h
          exact .nil
      | cons step rest ihrest =>
          rw [Node.decodeWithin, List.mapM_cons, Fallible.bind_eq_ok] at h
          obtain ⟨n, hstep, h⟩ := h
          obtain ⟨others, hothers, hnodes⟩ := Fallible.bind_eq_ok.1 h
          obtain rfl := Except.ok.inj hnodes
          rcases next_or_stop (s.runNode fallbacks ⟨around, index⟩ n st) with
            ⟨v, entries, st', hnext⟩ | hstop
          · rw [s.runNodes_of_next fallbacks hnext] at hrun
            rw [s.visits_of_next fallbacks hnext]
            have hlater := ihrest hothers hrun
            rcases Node.decodeStep_cases hstep with ⟨hop, act, rfl⟩ |
              ⟨hop, condition, ifTrue, ifFalse, inTrue, inFalse, hraw, htrue, hfalse, rfl⟩
            · exact .plain _ _ hop hlater
            · cases hside : st.context.condition s.config.unresolved condition with
              | error f =>
                  rw [s.runNode_branch_of_error fallbacks hside] at hnext
                  have hflow := congrArg Prod.fst hnext
                  rw [RunState.settleBranch_flow] at hflow
                  cases hflow
              | ok b =>
                  rw [s.visit_branch_of_ok fallbacks hside]
                  rw [s.runNode_branch_of_ok fallbacks hside] at hnext
                  have hflow := congrArg Prod.fst hnext
                  rw [RunState.settleBranch_flow] at hflow
                  obtain ⟨flow, hbranch, hafter⟩ := Fallible.map_eq_ok.1 hflow
                  cases flow with
                  | returned y => cases hafter
                  | next y =>
                      refine .conditional _ _ hop hraw ?_ hlater
                      cases b with
                      | true => exact ih htrue hbranch
                      | false => exact ih hfalse hbranch
          · rw [s.runNodes_of_stop fallbacks hstop] at hrun
            exact absurd hrun (hstop x)

end Surroundings

/-! ## Executions -/

/-- A step has ended an execution with a value. -/
structure EndedBy (history : List Visit) (v : Visit) (x : Value) (e : Execution) : Prop where
  status : e.status = .returned
  result : e.result = .ok x
  /-- after the step nothing was begun but the steps of its own branch -/
  last : ∃ earlier entry inside, e.steps = earlier ++ entry :: inside ∧ v.Shows entry ∧
    List.Forall₂ Visit.Shows (Visit.begunAll v.inner) inside
  /-- every conditional around the step was completed with the value of the step -/
  around : ∀ c ∈ Visit.begunAll history, v ∈ Visit.begunAll c.inner →
    (∃ entry ∈ e.steps, c.Shows entry ∧ entry.status = .completed) ∧
      ∀ key, c.head.assignTo = some key → e.context.get? key = some x

/-- An execution has run all steps and has the result of the last of them. -/
structure RanThrough (steps : List Step) (history : List Visit) (e : Execution) : Prop where
  status : e.status = .completed
  throughout : Step.Throughout steps history
  result : e.result = .ok (Visit.lastValue history)
  /-- the result of a conditional is that of the last step of its branch -/
  branches : ∀ place head b inner flow,
    Visit.branch place head (.ok b) inner (.ok flow) ∈ Visit.begunAll history →
      flow.value = Visit.lastValue inner

namespace Surroundings

/-- A completed step that is marked so ends the execution. -/
theorem endedBy_of_returns {s : Surroundings} {w : World} {r : Recipe} {v : Visit}
    (hv : v ∈ Visit.begunAll (s.history w r)) (hreturns : v.head.returns = true) {flow : Flow}
    (hended : v.ended = .ok flow) : EndedBy (s.history w r) v flow.value (s.execute w r).1 := by
  obtain ⟨hend, hends⟩ := (Visit.ends_of_returns hreturns hended).2 _ [] 0 .null
    (s.coherentAll_history w r) hv
  have hshown := s.shown_steps w r
  have hrun : (s.run w r).1 = .ok (.returned flow.value) := by
    rcases s.run_cases w r with ⟨f, -, -, hhistory⟩ | ⟨-, -, hhistory⟩ | ⟨nodes, -, hrun, hhistory⟩
    · rw [hhistory] at hv
      cases hv
    · rw [hhistory] at hv
      cases hv
    · rw [hrun, ← endOf_visits, ← hhistory, hend]
  refine ⟨?status, ?result, ?behind, ?enclosing⟩
  case status => exact congrArg Execution.statusOf hrun
  case result => exact congrArg Execution.resultOf hrun
  case behind =>
    obtain ⟨earlier, hsplit⟩ := hends.last
    rw [← hsplit, Visit.begun_eq] at hshown
    obtain ⟨before, behind, hbefore, hbehind, hsteps⟩ := Correspondence.append_left hshown
    cases hbehind with
    | cons hshows hinside => exact ⟨before, _, _, hsteps, hshows, hinside⟩
  case enclosing =>
    intro c hc hinside
    refine ⟨?_, fun key hkey => ?_⟩
    · obtain ⟨entry, hentry, hshows⟩ := Correspondence.exists_right hshown hc
      refine ⟨entry, hentry, hshows, ?_⟩
      obtain ⟨_, after, -, hafter, -, haround⟩ := hends.outward
      rcases hshows.done _ (hafter c (haround c hc hinside)) with hstatus | ⟨-, hplain⟩
      · exact hstatus
      · cases c with
        | plain _ _ _ => exact absurd hinside List.not_mem_nil
        | branch _ _ _ _ _ => cases hplain
    · rw [context_execute]
      exact hends.get?_eq hc hinside hkey .empty

/-- An execution in which nothing fails, and no step that is marked so is completed, runs all
steps. -/
theorem ranThrough_of_next {s : Surroundings} {w : World} {r : Recipe} {nodes : List Node}
    (hread : Node.decode w.catalog.hasAction s.config.maxDepth r.steps = .ok nodes)
    (hcut : s.isCut w.now = false) (hfailed : ∀ t ∈ (s.execute w r).1.steps, t.status ≠ .failed)
    (hreturns : ∀ v ∈ Visit.begunAll (s.history w r), v.head.returns = true →
      v.ended.isOk = false) :
    RanThrough r.steps (s.history w r) (s.execute w r).1 := by
  have hcoherent := s.coherentAll_history w r
  have hshown := s.shown_steps w r
  have hend : (s.run w r).1 = Visit.endOf .null (s.history w r) := by
    rcases run_ended hread with ⟨hgiven, -⟩ | hend
    · rw [hcut] at hgiven
      cases hgiven
    · exact hend
  obtain ⟨x, hnext⟩ : ∃ x, Visit.endOf .null (s.history w r) = .ok (.next x) := by
    cases hended : Visit.endOf .null (s.history w r) with
    | error stop =>
        obtain ⟨v, hv, hstop⟩ := Visit.exists_failed hcoherent hended
        obtain ⟨t, ht, hshows⟩ := Correspondence.exists_right hshown hv
        exact absurd (hshows.failed_iff.2 hstop) (hfailed t ht)
    | ok flow =>
        cases flow with
        | next x => exact ⟨x, rfl⟩
        | returned x =>
            obtain ⟨v, hv, hmarked, hok⟩ :=
              Visit.exists_returns.2 _ [] 0 .null x hcoherent hended
            rw [hreturns v hv hmarked] at hok
            cases hok
  have hrun := hend.trans hnext
  refine ⟨congrArg Execution.statusOf hrun, ?throughout, ?result, ?branches⟩
  case throughout =>
    rcases s.run_cases w r with ⟨f, hrefused, -⟩ | ⟨hgiven, -⟩ | ⟨_, hread', hruns, hhistory⟩
    · cases hread.symm.trans hrefused
    · rw [hcut] at hgiven
      cases hgiven
    · rw [hhistory]
      rw [hruns] at hrun
      exact throughout_of_next hread' hrun
  case result =>
    rw [← Visit.value_of_endOf hnext]
    exact congrArg Execution.resultOf hrun
  case branches =>
    intro place head b inner flow hmem
    exact Visit.value_of_branch ((Visit.coherent_of_mem_begun _).2 _ _ _ hcoherent hmem)

/-- **Early return.**  If a step that is marked so is completed, at any depth, it ends the execution
with its value, and every conditional around it has this value.  If none is and nothing fails, the
execution runs all steps of the recipe and has the result of the last. -/
theorem early_return (s : Surroundings) (w : World) (r : Recipe) :
    (∀ v ∈ Visit.begunAll (s.history w r), v.head.returns = true → ∀ flow, v.ended = .ok flow →
      EndedBy (s.history w r) v flow.value (s.execute w r).1) ∧
    ((Node.decode w.catalog.hasAction s.config.maxDepth r.steps).isOk = true →
      s.isCut w.now = false → (∀ t ∈ (s.execute w r).1.steps, t.status ≠ .failed) →
      (∀ v ∈ Visit.begunAll (s.history w r), v.head.returns = true → v.ended.isOk = false) →
        RanThrough r.steps (s.history w r) (s.execute w r).1) := by
  refine ⟨fun v hv hreturns flow hended => endedBy_of_returns hv hreturns hended, ?_⟩
  intro hread hcut hfailed hreturns
  cases hnodes : Node.decode w.catalog.hasAction s.config.maxDepth r.steps with
  | error f =>
      rw [hnodes] at hread
      cases hread
  | ok nodes => exact ranThrough_of_next hnodes hcut hfailed hreturns

/-- A recipe with a conditional whose second of three steps may end it. -/
def leaving (returns : Bool) : Recipe :=
  ⟨1.0,
    [⟨"conditional", some "answer", false,
        [("condition", .bool true),
          ("ifTrue", .list
            [.object [("template", .text "first"), ("type", .text "formatResponse")],
              .object
                [("returns", .bool returns), ("template", .text "second"),
                  ("type", .text "formatResponse")],
              .object [("template", .text "third"), ("type", .text "formatResponse")]])]⟩,
      ⟨"formatResponse", none, false, [("template", .text "last")]⟩],
    []⟩

theorem early_return_leaving :
    (∃ v ∈ Visit.begunAll (unanswered.history ⟨7, .empty .standard, [], []⟩ (leaving true)),
      v.head.returns = true ∧ ∃ flow, v.ended = .ok flow ∧
        EndedBy (unanswered.history ⟨7, .empty .standard, [], []⟩ (leaving true)) v flow.value
          (unanswered.execute ⟨7, .empty .standard, [], []⟩ (leaving true)).1) ∧
    RanThrough (leaving false).steps
      (unanswered.history ⟨7, .empty .standard, [], []⟩ (leaving false))
      (unanswered.execute ⟨7, .empty .standard, [], []⟩ (leaving false)).1 := by
  constructor
  · have hmarked : (Visit.begunAll (unanswered.history ⟨7, .empty .standard, [], []⟩
        (leaving true))).any (fun v => v.head.returns && v.ended.isOk) = true := by
      decide +kernel
    obtain ⟨v, hv, hdone⟩ := List.any_eq_true.1 hmarked
    obtain ⟨hreturns, hok⟩ := Bool.and_eq_true_iff.1 hdone
    cases hended : v.ended with
    | error stop =>
        rw [hended] at hok
        cases hok
    | ok flow =>
        exact ⟨v, hv, hreturns, flow, hended,
          (early_return unanswered ⟨7, .empty .standard, [], []⟩ (leaving true)).1 v hv hreturns
            flow hended⟩
  · exact (early_return unanswered ⟨7, .empty .standard, [], []⟩ (leaving false)).2 rfl rfl
      (by decide +kernel) (by decide +kernel)

end Surroundings

end Planwright
