import Planwright.Proofs.Execution.Fallback
import Planwright.Proofs.Correspondence
import Planwright.Proofs.Fallible

set_option autoImplicit false

/-!
# The history of an execution

A trace is flat and shows no results.  The *history* of an execution has one visit for each step
that was begun, with its result and, for a conditional, the visits of the steps in its branch.  The
runner decides everything about it: a visit ends as the runner says that the step ends.

Two facts are proved about every run.  The visits account for the trace and for the context that the
run leaves (`accounts_visits`), and they hang together (`coherentAll_visits`): steps follow one
another only as long as none ends the recipe or fails, and a conditional ends as its branch does.
What a trace or a context must look like is then a matter of coherent histories alone, whatever
providers and actions answer and wherever the caller gives up.
-/

namespace Planwright

open Fallible

/-! ## Visits -/

/-- A step that was begun: where it stands, what it has in common with every step, and what became
of it.  For a conditional also the branch that its condition has led to, and the steps that were
begun in this branch. -/
inductive Visit where
  | plain (place : Place) (head : StepHead) (ended : Ended Flow)
  | branch (place : Place) (head : StepHead) (side : Except Failure Bool) (inner : List Visit)
      (ended : Ended Flow)

namespace Visit

/-- Where the step stands. -/
def place : Visit → Place
  | .plain p _ _ | .branch p _ _ _ _ => p

/-- What the step has in common with every step. -/
def head : Visit → StepHead
  | .plain _ h _ | .branch _ h _ _ _ => h

/-- What became of the step. -/
def ended : Visit → Ended Flow
  | .plain _ _ e | .branch _ _ _ _ e => e

/-- The steps that were begun in the branch of the step. -/
def inner : Visit → List Visit
  | .plain _ _ _ => []
  | .branch _ _ _ vs _ => vs

/-- Whether the step is none that has branches. -/
def isPlain : Visit → Bool
  | .plain _ _ _ => true
  | .branch _ _ _ _ _ => false

/-- The result of a step that was completed. -/
def value? (v : Visit) : Option Value := v.ended.toOption.map Flow.value

/-- What a conditional has to say about every visit holds of all visits. -/
theorem induction {P : Visit → Prop} {Q : List Visit → Prop}
    (plain : ∀ place head ended, P (.plain place head ended))
    (branch : ∀ place head side inner ended, Q inner → P (.branch place head side inner ended))
    (nil : Q []) (cons : ∀ v vs, P v → Q vs → Q (v :: vs)) :
    (∀ v, P v) ∧ ∀ vs, Q vs :=
  ⟨Visit.rec plain branch nil cons, Visit.rec_1 plain branch nil cons⟩

/-! ## Orders -/

mutual

/-- A step and the steps begun in it, in the order of their beginnings. -/
def begun : Visit → List Visit
  | .plain place head ended => [.plain place head ended]
  | .branch place head side inner ended =>
    .branch place head side inner ended :: begunAll inner

/-- Steps and the steps begun in them, in the order of their beginnings. -/
def begunAll : List Visit → List Visit
  | [] => []
  | v :: vs => begun v ++ begunAll vs

end

mutual

/-- A step and the steps begun in it, in the order of their ends: a conditional ends after the steps
of its branch. -/
def finished : Visit → List Visit
  | .plain place head ended => [.plain place head ended]
  | .branch place head side inner ended =>
    finishedAll inner ++ [.branch place head side inner ended]

/-- Steps and the steps begun in them, in the order of their ends. -/
def finishedAll : List Visit → List Visit
  | [] => []
  | v :: vs => finished v ++ finishedAll vs

end

theorem begun_eq (v : Visit) : v.begun = v :: begunAll v.inner := by
  cases v <;> rfl

theorem finished_eq (v : Visit) : v.finished = finishedAll v.inner ++ [v] := by
  cases v <;> rfl

theorem begunAll_singleton (v : Visit) : begunAll [v] = v :: begunAll v.inner := by
  rw [begunAll, begunAll, List.append_nil, begun_eq]

theorem finishedAll_singleton (v : Visit) : finishedAll [v] = finishedAll v.inner ++ [v] := by
  rw [finishedAll, finishedAll, List.append_nil, finished_eq]

theorem begunAll_append (vs us : List Visit) :
    begunAll (vs ++ us) = begunAll vs ++ begunAll us := by
  induction vs with
  | nil => rfl
  | cons v vs ih => rw [List.cons_append, begunAll, begunAll, ih, List.append_assoc]

theorem finishedAll_append (vs us : List Visit) :
    finishedAll (vs ++ us) = finishedAll vs ++ finishedAll us := by
  induction vs with
  | nil => rfl
  | cons v vs ih => rw [List.cons_append, finishedAll, finishedAll, ih, List.append_assoc]

/-! ## Coherence -/

/-- What becomes of steps in order: what has become of the last of them that was begun; `last` is
the result if there are none. -/
def endOf (last : Value) (vs : List Visit) : Ended Flow :=
  (vs.getLast?.map ended).getD (.ok (.next last))

theorem endOf_cons {v : Visit} {vs : List Visit} {last x : Value} (h : v.ended = .ok (.next x)) :
    endOf last (v :: vs) = endOf x vs := by
  cases vs with
  | nil => exact h
  | cons u us => rfl

mutual

/-- The end of a visit fits what happened in it: a plain step that may end the recipe does so when
it succeeds, and a conditional ends as its branch does, or fails with its condition. -/
def Coherent : Visit → Prop
  | .plain _ head ended => ∀ flow, ended = .ok flow → ∃ v, flow = (Flow.next v).after head.returns
  | .branch _ _ (.error f) inner ended => inner = [] ∧ ended = .error (.failed f)
  | .branch place head (.ok b) inner ended =>
    CoherentAll (place.inside b) 0 inner ∧
      ended = (endOf .null inner).map (Flow.after head.returns)

/-- Visits follow one another in the order of their places, the first at an index, and each but the
last has let the next one go on. -/
def CoherentAll (around : List (Nat × Bool)) (index : Nat) : List Visit → Prop
  | [] => True
  | v :: vs =>
    v.place = ⟨around, index⟩ ∧ Coherent v ∧ (vs = [] ∨ ∃ x, v.ended = .ok (.next x)) ∧
      CoherentAll around (index + 1) vs

end

/-- A visit in a coherent history is coherent. -/
theorem coherent_of_mem_begun (u : Visit) :
    (∀ v : Visit, v.Coherent → u ∈ v.begun → u.Coherent) ∧
    ∀ (vs : List Visit) around index, CoherentAll around index vs → u ∈ begunAll vs →
      u.Coherent := by
  refine Visit.induction ?plain ?branch ?nil ?cons
  case plain =>
    intro place head ended hcoherent hu
    rwa [List.mem_singleton.1 hu]
  case branch =>
    intro place head side inner ended ih hcoherent hu
    rcases List.mem_cons.1 hu with rfl | hmem
    · exact hcoherent
    · cases side with
      | error f =>
          obtain ⟨rfl, -⟩ := hcoherent
          exact absurd hmem List.not_mem_nil
      | ok b => exact ih _ _ hcoherent.1 hmem
  case nil =>
    intro around index _ hu
    exact absurd hu List.not_mem_nil
  case cons =>
    intro v vs hv hvs around index hcoherent hu
    obtain ⟨-, hfirst, -, hrest⟩ := hcoherent
    rcases List.mem_append.1 hu with hmem | hmem
    · exact hv hfirst hmem
    · exact hvs _ _ hrest hmem

/-- The result of the last of several steps, and null if there are none. -/
def lastValue (vs : List Visit) : Value := (vs.getLast?.bind value?).getD .null

/-- If steps in order succeed, they have the result of the last of them. -/
theorem value_of_endOf {vs : List Visit} {flow : Flow} (h : endOf .null vs = .ok flow) :
    flow.value = lastValue vs := by
  unfold endOf at h
  unfold lastValue
  cases hlast : vs.getLast? with
  | none =>
      rw [hlast] at h
      rw [← Except.ok.inj h]
      rfl
  | some v =>
      rw [hlast] at h
      replace h : v.ended = .ok flow := h
      rw [Option.bind_some, value?, h]
      rfl

/-! ## What a visit leaves -/

/-- An entry of a trace is the one of a step.  Only a plain step can have been completed by a
fallback. -/
structure Shows (v : Visit) (t : StepTrace) : Prop where
  path : t.path = v.place.text
  op : t.op = v.head.op
  done : ∀ flow, v.ended = .ok flow →
    t.status = .completed ∨ t.status = .completedViaFallback ∧ v.isPlain
  failed : ∀ stop, v.ended = .error stop →
    t.status = .failed ∧ t.error = some stop.failure.message

/-- Writes the result of a step to the context, if it was completed and names a key. -/
def write (c : Context) (v : Visit) : Context :=
  match v.head.assignTo, v.value? with
  | some key, some x => c.assign key x
  | _, _ => c

/-- The visits account for what a run from a state has left: the trace shows them in the order of
their beginnings, and the context is what they wrote in the order of their ends. -/
structure Accounts (st : RunState) (ran : Ran) (vs : List Visit) : Prop where
  entries : List.Forall₂ Shows (begunAll vs) ran.2.1
  context : ran.2.2.context = (finishedAll vs).foldl write st.context

theorem Accounts.append {st st' : RunState} {ended other : Ended Flow}
    {entries more : List StepTrace} {after : RunState} {vs us : List Visit}
    (hfirst : Accounts st (ended, entries, st') vs) (hrest : Accounts st' (other, more, after) us) :
    Accounts st (other, entries ++ more, after) (vs ++ us) where
  entries := by
    rw [begunAll_append]
    exact List.rel_append hfirst.entries hrest.entries
  context := by
    rw [finishedAll_append, List.foldl_append, ← hfirst.context]
    exact hrest.context

end Visit

/-! ## Settling -/

theorem Flow.value_after (returns : Bool) (flow : Flow) :
    (flow.after returns).value = flow.value := by
  cases flow with
  | next v => cases returns <;> rfl
  | returned v => rfl

namespace RunState

variable {started : Nat} {place : Place} {head : StepHead} {st : RunState}
  {ended : Ended (Flow × Option String × StepStatus)} {v : Visit}

theorem settle_flow (started : Nat) (place : Place) (head : StepHead) (st : RunState)
    (ended : Ended (Flow × Option String × StepStatus)) :
    (settle started place head ended st).1 = ended.map fun r => r.1.after head.returns := by
  match ended with
  | .ok _ => rfl
  | .error (.failed _) => rfl
  | .error .interrupted => rfl

/-- The entry with which a step is settled shows its visit. -/
theorem shows_settle (hplace : v.place = place) (hhead : v.head = head)
    (hended : v.ended = (settle started place head ended st).1)
    (hstatus : ∀ r, ended = .ok r →
      r.2.2 = .completed ∨ r.2.2 = .completedViaFallback ∧ v.isPlain) :
    v.Shows (settle started place head ended st).2.1 := by
  subst hplace hhead
  match ended with
  | .ok r =>
      refine ⟨rfl, rfl, fun _ _ => hstatus r rfl, fun stop h => ?_⟩
      exact nomatch hended.symm.trans h
  | .error (.failed f) =>
      refine ⟨rfl, rfl, fun flow h => ?_, fun stop h => ?_⟩
      · exact nomatch hended.symm.trans h
      · obtain rfl := Except.error.inj (hended.symm.trans h)
        exact ⟨rfl, rfl⟩
  | .error .interrupted =>
      refine ⟨rfl, rfl, fun flow h => ?_, fun stop h => ?_⟩
      · exact nomatch hended.symm.trans h
      · obtain rfl := Except.error.inj (hended.symm.trans h)
        exact ⟨rfl, rfl⟩

/-- Settling a step writes what its visit writes. -/
theorem context_settle (hhead : v.head = head)
    (hended : v.ended = (settle started place head ended st).1) :
    (settle started place head ended st).2.2.context = v.write st.context := by
  rw [settle_flow] at hended
  subst hhead
  match ended with
  | .ok (flow, provider, status) =>
      have hvalue : v.value? = some flow.value := by
        rw [Visit.value?, hended]
        exact congrArg some (Flow.value_after v.head.returns flow)
      simp only [settle, Visit.write, hvalue]
      cases v.head.assignTo <;> rfl
  | .error stop =>
      have hvalue : v.value? = none := by
        rw [Visit.value?, hended]
        rfl
      rw [Visit.write, hvalue]
      cases stop <;> cases v.head.assignTo <;> rfl

end RunState

/-! ## Branches -/

namespace RunState

/-- Settles a conditional; `ran` is what has become of its branch. -/
def settleBranch (started : Nat) (place : Place) (head : StepHead) (ran : Ran) : Ran :=
  let (flow, entry, after) := settle started place head
    (ran.1.map fun flow => (flow, none, .completed)) ran.2.2
  (flow, entry :: ran.2.1, after)

theorem settleBranch_flow (started : Nat) (place : Place) (head : StepHead) (ran : Ran) :
    (settleBranch started place head ran).1 = ran.1.map (Flow.after head.returns) := by
  have hflow := settle_flow started place head ran.2.2
    (ran.1.map fun flow => (flow, none, .completed))
  refine Eq.trans hflow ?_
  cases ran.1 <;> rfl

/-- Visits that account for a branch account, with that of the conditional, for the conditional. -/
theorem accounts_settleBranch {started : Nat} {place : Place} {head : StepHead} {st : RunState}
    {ran : Ran} {inner : List Visit} (hinner : Visit.Accounts st ran inner)
    (side : Except Failure Bool) :
    Visit.Accounts st (settleBranch started place head ran)
      [.branch place head side inner (settleBranch started place head ran).1] where
  entries := by
    rw [Visit.begunAll_singleton]
    refine List.Forall₂.cons (shows_settle rfl rfl rfl ?_) hinner.entries
    intro r hr
    obtain ⟨flow, -, rfl⟩ := map_eq_ok.1 hr
    exact .inl rfl
  context := by
    rw [Visit.finishedAll_singleton, List.foldl_append]
    have hwritten : (settleBranch started place head ran).2.2.context
        = Visit.write ran.2.2.context
            (.branch place head side inner (settleBranch started place head ran).1) :=
      context_settle rfl rfl
    rw [hwritten, hinner.context]
    rfl

end RunState

/-- What holds of plain steps, and of a conditional if it holds of both its branches, holds of all
steps. -/
theorem Node.induction {P : Node → Prop} {Q : List Node → Prop}
    (plain : ∀ head act, P (.plain head act))
    (branch : ∀ head condition ifTrue ifFalse, Q ifTrue → Q ifFalse →
      P (.branch head condition ifTrue ifFalse))
    (nil : Q []) (cons : ∀ n rest, P n → Q rest → Q (n :: rest)) :
    (∀ n, P n) ∧ ∀ ns, Q ns :=
  ⟨Node.rec plain branch nil cons, Node.rec_1 plain branch nil cons⟩

namespace Surroundings

variable (s : Surroundings) (fallbacks : List String)

theorem runNode_branch_of_error {place : Place} {head : StepHead} {condition : Value}
    {ifTrue ifFalse : List Node} {st : RunState} {f : Failure}
    (h : st.context.condition s.config.unresolved condition = .error f) :
    s.runNode fallbacks place (.branch head condition ifTrue ifFalse) st
      = RunState.settleBranch st.world.now place head (.error (.failed f), [], st) := by
  rw [runNode, h]
  rfl

theorem runNode_branch_of_ok {place : Place} {head : StepHead} {condition : Value}
    {ifTrue ifFalse : List Node} {st : RunState} {b : Bool}
    (h : st.context.condition s.config.unresolved condition = .ok b) :
    s.runNode fallbacks place (.branch head condition ifTrue ifFalse) st
      = RunState.settleBranch st.world.now place head
          (s.runNodes fallbacks (place.inside b) 0 .null (if b then ifTrue else ifFalse) st) := by
  rw [runNode, h]
  cases b <;> rfl

/-! ## Visits of a run -/

mutual

/-- The visit of the step at a place. -/
def visit (place : Place) : Node → RunState → Visit
  | .plain head act, st => .plain place head (s.runNode fallbacks place (.plain head act) st).1
  | .branch head condition ifTrue ifFalse, st =>
    let side := st.context.condition s.config.unresolved condition
    let inner := match side with
      | .error _ => []
      | .ok true => visits (place.inside true) 0 ifTrue st
      | .ok false => visits (place.inside false) 0 ifFalse st
    .branch place head side inner
      (s.runNode fallbacks place (.branch head condition ifTrue ifFalse) st).1

/-- The visits of steps in order, the first of them at an index; a step is visited only if the one
before has let it go on. -/
def visits (around : List (Nat × Bool)) (index : Nat) : List Node → RunState → List Visit
  | [], _ => []
  | n :: rest, st =>
    visit ⟨around, index⟩ n st ::
      match s.runNode fallbacks ⟨around, index⟩ n st with
      | (.ok (.next _), _, st) => visits around (index + 1) rest st
      | _ => []

end

theorem place_visit (place : Place) (n : Node) (st : RunState) :
    (s.visit fallbacks place n st).place = place := by
  cases n <;> rfl

/-- A visit ends as the runner says. -/
theorem ended_visit (place : Place) (n : Node) (st : RunState) :
    (s.visit fallbacks place n st).ended = (s.runNode fallbacks place n st).1 := by
  cases n <;> rfl

theorem visit_branch_of_error {place : Place} {head : StepHead} {condition : Value}
    {ifTrue ifFalse : List Node} {st : RunState} {f : Failure}
    (h : st.context.condition s.config.unresolved condition = .error f) :
    s.visit fallbacks place (.branch head condition ifTrue ifFalse) st
      = .branch place head (.error f) []
          (s.runNode fallbacks place (.branch head condition ifTrue ifFalse) st).1 := by
  rw [visit, h]

theorem visit_branch_of_ok {place : Place} {head : StepHead} {condition : Value}
    {ifTrue ifFalse : List Node} {st : RunState} {b : Bool}
    (h : st.context.condition s.config.unresolved condition = .ok b) :
    s.visit fallbacks place (.branch head condition ifTrue ifFalse) st
      = .branch place head (.ok b)
          (s.visits fallbacks (place.inside b) 0 (if b then ifTrue else ifFalse) st)
          (s.runNode fallbacks place (.branch head condition ifTrue ifFalse) st).1 := by
  rw [visit, h]
  cases b <;> rfl

/-! ## Steps in order -/

/-- A step that lets the next one go on. -/
theorem runNodes_of_next {around : List (Nat × Bool)} {index : Nat} {last v : Value} {n : Node}
    {rest : List Node} {st st' : RunState} {entries : List StepTrace}
    (h : s.runNode fallbacks ⟨around, index⟩ n st = (.ok (.next v), entries, st')) :
    s.runNodes fallbacks around index last (n :: rest) st
      = ((s.runNodes fallbacks around (index + 1) v rest st').1,
          entries ++ (s.runNodes fallbacks around (index + 1) v rest st').2.1,
          (s.runNodes fallbacks around (index + 1) v rest st').2.2) := by
  rw [runNodes, h]

theorem visits_of_next {around : List (Nat × Bool)} {index : Nat} {v : Value} {n : Node}
    {rest : List Node} {st st' : RunState} {entries : List StepTrace}
    (h : s.runNode fallbacks ⟨around, index⟩ n st = (.ok (.next v), entries, st')) :
    s.visits fallbacks around index (n :: rest) st
      = s.visit fallbacks ⟨around, index⟩ n st
          :: s.visits fallbacks around (index + 1) rest st' := by
  rw [visits, h]

/-- A step after which no other is begun. -/
theorem runNodes_of_stop {around : List (Nat × Bool)} {index : Nat} {last : Value} {n : Node}
    {rest : List Node} {st : RunState}
    (h : ∀ v, (s.runNode fallbacks ⟨around, index⟩ n st).1 ≠ .ok (.next v)) :
    s.runNodes fallbacks around index last (n :: rest) st
      = s.runNode fallbacks ⟨around, index⟩ n st := by
  rw [runNodes]
  split
  · next hnext => exact absurd (congrArg Prod.fst hnext) (h _)
  · rfl

theorem visits_of_stop {around : List (Nat × Bool)} {index : Nat} {n : Node}
    {rest : List Node} {st : RunState}
    (h : ∀ v, (s.runNode fallbacks ⟨around, index⟩ n st).1 ≠ .ok (.next v)) :
    s.visits fallbacks around index (n :: rest) st = [s.visit fallbacks ⟨around, index⟩ n st] := by
  rw [visits]
  split
  · next hnext => exact absurd (congrArg Prod.fst hnext) (h _)
  · rfl

/-- What becomes of the first of several steps decides whether the others are begun. -/
theorem next_or_stop (ran : Ran) :
    (∃ v entries st', ran = (.ok (.next v), entries, st')) ∨ ∀ v, ran.1 ≠ .ok (.next v) := by
  match ran with
  | (.ok (.next v), entries, st') => exact .inl ⟨v, entries, st', rfl⟩
  | (.ok (.returned _), _, _) => exact .inr fun v h => nomatch h
  | (.error _, _, _) => exact .inr fun v h => nomatch h

/-! ## Every run -/

variable {s fallbacks}

/-- An instruction is completed at the first try or by a fallback. -/
theorem status_of_attempt {ctx : Context} {w w' : World} {act : Act}
    {p : Performed × StepStatus} (h : s.attempt fallbacks ctx w act = (.ok p, w')) :
    p.2 = .completed ∨ p.2 = .completedViaFallback := by
  cases attempted_iff.2 h with
  | atOnce _ => exact .inl rfl
  | viaFallback _ _ _ _ _ => exact .inr rfl

theorem accounts_visit_plain (place : Place) (head : StepHead) (act : Act) (st : RunState) :
    Visit.Accounts st (s.runNode fallbacks place (.plain head act) st)
      [s.visit fallbacks place (.plain head act) st] where
  entries := by
    rw [Visit.begunAll_singleton]
    refine List.Forall₂.cons (RunState.shows_settle rfl rfl rfl ?_) .nil
    intro r hr
    obtain ⟨p, hattempt, rfl⟩ := map_eq_ok.1 hr
    rcases status_of_attempt (Prod.ext hattempt rfl) with hstatus | hstatus
    · exact .inl hstatus
    · exact .inr ⟨hstatus, rfl⟩
  context := by
    rw [Visit.finishedAll_singleton, List.foldl_append]
    exact RunState.context_settle rfl rfl

/-- The visits account for every run. -/
theorem accounts_visits :
    (∀ n place st, Visit.Accounts st (s.runNode fallbacks place n st)
      [s.visit fallbacks place n st]) ∧
    ∀ ns around index last st, Visit.Accounts st (s.runNodes fallbacks around index last ns st)
      (s.visits fallbacks around index ns st) := by
  refine Node.induction ?plain ?branch ?nil ?cons
  case plain =>
    intro head act place st
    exact accounts_visit_plain place head act st
  case branch =>
    intro head condition ifTrue ifFalse htrue hfalse place st
    cases hside : st.context.condition s.config.unresolved condition with
    | error f =>
        rw [s.visit_branch_of_error fallbacks hside, s.runNode_branch_of_error fallbacks hside]
        exact RunState.accounts_settleBranch ⟨.nil, rfl⟩ _
    | ok b =>
        rw [s.visit_branch_of_ok fallbacks hside, s.runNode_branch_of_ok fallbacks hside]
        refine RunState.accounts_settleBranch ?_ _
        cases b with
        | true => exact htrue _ _ _ _
        | false => exact hfalse _ _ _ _
  case nil =>
    intro around index last st
    exact ⟨.nil, rfl⟩
  case cons =>
    intro n rest hn hrest around index last st
    rcases next_or_stop (s.runNode fallbacks ⟨around, index⟩ n st) with
      ⟨v, entries, st', hnext⟩ | hstop
    · rw [s.runNodes_of_next fallbacks hnext, s.visits_of_next fallbacks hnext]
      have hfirst := hn ⟨around, index⟩ st
      rw [hnext] at hfirst
      exact hfirst.append (hrest _ _ _ _)
    · rw [s.runNodes_of_stop fallbacks hstop, s.visits_of_stop fallbacks hstop]
      exact hn _ _

/-- Steps in order become what the last of them that was begun became. -/
theorem endOf_visits (ns : List Node) (around : List (Nat × Bool)) (index : Nat) (last : Value)
    (st : RunState) :
    Visit.endOf last (s.visits fallbacks around index ns st)
      = (s.runNodes fallbacks around index last ns st).1 := by
  induction ns generalizing index last st with
  | nil => rfl
  | cons n rest ih =>
      rcases next_or_stop (s.runNode fallbacks ⟨around, index⟩ n st) with
        ⟨v, entries, st', hnext⟩ | hstop
      · have hended := s.ended_visit fallbacks ⟨around, index⟩ n st
        rw [hnext] at hended
        rw [s.runNodes_of_next fallbacks hnext, s.visits_of_next fallbacks hnext,
          Visit.endOf_cons hended]
        exact ih _ _ _
      · rw [s.runNodes_of_stop fallbacks hstop, s.visits_of_stop fallbacks hstop]
        exact s.ended_visit fallbacks _ _ _

/-- Every run is coherent. -/
theorem coherent_visits :
    (∀ n place st, (s.visit fallbacks place n st).Coherent) ∧
    ∀ ns around index st,
      Visit.CoherentAll around index (s.visits fallbacks around index ns st) := by
  refine Node.induction ?plain ?branch ?nil ?cons
  case plain =>
    intro head act place st flow hflow
    obtain ⟨r, hr, hafter⟩ := map_eq_ok.1 ((RunState.settle_flow _ _ _ _ _).symm.trans hflow)
    obtain ⟨p, -, hp⟩ := map_eq_ok.1 hr
    exact ⟨p.1.1, by rw [← hafter, ← hp]⟩
  case branch =>
    intro head condition ifTrue ifFalse htrue hfalse place st
    cases hside : st.context.condition s.config.unresolved condition with
    | error f =>
        rw [s.visit_branch_of_error fallbacks hside, s.runNode_branch_of_error fallbacks hside]
        exact ⟨rfl, rfl⟩
    | ok b =>
        rw [s.visit_branch_of_ok fallbacks hside, s.runNode_branch_of_ok fallbacks hside]
        refine ⟨?_, ?_⟩
        · cases b with
          | true => exact htrue _ _ _
          | false => exact hfalse _ _ _
        · rw [RunState.settleBranch_flow, endOf_visits]
  case nil =>
    intro around index st
    exact trivial
  case cons =>
    intro n rest hn hrest around index st
    rcases next_or_stop (s.runNode fallbacks ⟨around, index⟩ n st) with
      ⟨v, entries, st', hnext⟩ | hstop
    · rw [s.visits_of_next fallbacks hnext]
      have hended := s.ended_visit fallbacks ⟨around, index⟩ n st
      rw [hnext] at hended
      exact ⟨s.place_visit fallbacks _ _ _, hn _ _, .inr ⟨v, hended⟩, hrest _ _ _⟩
    · rw [s.visits_of_stop fallbacks hstop]
      exact ⟨s.place_visit fallbacks _ _ _, hn _ _, .inl rfl, trivial⟩

/-! ## Executions -/

/-- The history of an execution: the visits of the steps of the recipe, none if the recipe is
refused or the caller has given up already. -/
def history (s : Surroundings) (w : World) (r : Recipe) : List Visit :=
  match Node.decode w.catalog.hasAction s.config.maxDepth r.steps with
  | .error _ => []
  | .ok nodes =>
    if s.isCut w.now then []
    else s.visits (r.fallbackOrder.map (·.provider)) [] 0 nodes ⟨w, .empty⟩

variable (s)

/-- An execution begins nothing, or it is a run of the steps of the recipe. -/
theorem run_cases (w : World) (r : Recipe) :
    (∃ f, Node.decode w.catalog.hasAction s.config.maxDepth r.steps = .error f ∧
        s.run w r = (.error (.failed f), [], ⟨w, .empty⟩) ∧ s.history w r = []) ∨
    (s.isCut w.now = true ∧ s.run w r = (.error .interrupted, [], ⟨w, .empty⟩) ∧
        s.history w r = []) ∨
    ∃ nodes, Node.decode w.catalog.hasAction s.config.maxDepth r.steps = .ok nodes ∧
      s.run w r = s.runNodes (r.fallbackOrder.map (·.provider)) [] 0 .null nodes ⟨w, .empty⟩ ∧
      s.history w r = s.visits (r.fallbackOrder.map (·.provider)) [] 0 nodes ⟨w, .empty⟩ := by
  unfold run history
  cases Node.decode w.catalog.hasAction s.config.maxDepth r.steps with
  | error f => exact .inl ⟨f, rfl, rfl, rfl⟩
  | ok nodes =>
      cases hcut : s.isCut w.now with
      | true => exact .inr (.inl ⟨rfl, by simp, by simp⟩)
      | false => exact .inr (.inr ⟨nodes, rfl, by simp, by simp⟩)

theorem accounts_history (w : World) (r : Recipe) :
    Visit.Accounts ⟨w, .empty⟩ (s.run w r) (s.history w r) := by
  rcases s.run_cases w r with ⟨f, -, hrun, hhistory⟩ | ⟨-, hrun, hhistory⟩ |
    ⟨nodes, -, hrun, hhistory⟩
  · rw [hrun, hhistory]
    exact ⟨.nil, rfl⟩
  · rw [hrun, hhistory]
    exact ⟨.nil, rfl⟩
  · rw [hrun, hhistory]
    exact accounts_visits.2 _ _ _ _ _

theorem coherentAll_history (w : World) (r : Recipe) :
    Visit.CoherentAll [] 0 (s.history w r) := by
  rcases s.run_cases w r with ⟨f, -, -, hhistory⟩ | ⟨-, -, hhistory⟩ | ⟨nodes, -, -, hhistory⟩
  · rw [hhistory]
    exact trivial
  · rw [hhistory]
    exact trivial
  · rw [hhistory]
    exact coherent_visits.2 _ _ _ _

end Surroundings

end Planwright
