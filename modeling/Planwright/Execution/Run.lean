import Planwright.Execution.Perform
import Planwright.Instruction.Decode

set_option autoImplicit false

/-!
# Running a recipe

Steps are run in order.  Each writes its result to the context if it names a key, and the last
result is the result of the recipe unless a step ends the recipe before.  A conditional runs one of
its branches and takes over what becomes of it.

Every step that is begun leaves one entry in the trace, before the entries of the steps in its
branch.  A failed step writes nothing.
-/

namespace Planwright

/-! ## Places -/

/-- Where a step stands: the conditionals around it with the branch taken in each, the outermost
first, and its index in the innermost list. -/
structure Place where
  around : List (Nat × Bool)
  index : Nat
  deriving DecidableEq, Repr, Inhabited

namespace Place

/-- The word for a branch. -/
def branchName (b : Bool) : String := if b then "ifTrue" else "ifFalse"

/-- The place as it is shown: `"3"`, or `"2/ifFalse/0"` in a branch. -/
def text (p : Place) : String :=
  p.around.foldr (fun c rest => toString c.1 ++ "/" ++ branchName c.2 ++ "/" ++ rest)
    (toString p.index)

/-- What stands around the steps of a branch of the step at this place. -/
def inside (p : Place) (b : Bool) : List (Nat × Bool) := p.around ++ [(p.index, b)]

end Place

/-! ## Conditions -/

namespace Context

/-- Whether the value at a path is there and counts as true. -/
def holdsAt (c : Context) (path : String) : Bool := (c.resolve path).any Value.isTruthy

/-- Whether a condition holds.  A text is one of the words `true` and `false`, or one reference, or
a text with references that is rendered first, or else a path. -/
def condition (c : Context) (policy : UnresolvedPolicy) : Value → Except Failure Bool
  | .text s =>
    let word := Text.trimString s
    if word == "true" then .ok true
    else if word == "false" then .ok false
    else
      let template := Template.parse s
      match template.single? with
      | some path => .ok (c.holdsAt path)
      | none =>
        if template.references.isEmpty then .ok (c.holdsAt word)
        else (c.render policy s).map fun text => (Value.text text).isTruthy
  | v => .ok v.isTruthy

end Context

/-! ## Steps -/

/-- What a step tells the steps after it. -/
inductive Flow where
  /-- they go on; the value is the step's result -/
  | next (v : Value)
  /-- the recipe has ended with this value -/
  | returned (v : Value)
  deriving Repr, Inhabited

namespace Flow

/-- The result of the step. -/
def value : Flow → Value
  | .next v | .returned v => v

/-- The flow after a step that may end the recipe. -/
def after (returns : Bool) : Flow → Flow
  | .next v => if returns then .returned v else .next v
  | flow => flow

end Flow

/-- What changes while steps are run. -/
structure RunState where
  world : World
  context : Context

/-- What becomes of a step: how the steps after it go on, the entries of the trace it leaves and
the state after it. -/
abbrev Ran : Type := Ended Flow × List StepTrace × RunState

namespace RunState

/-- Ends a step that was begun at an instant: writes its result and its entry of the trace. -/
def settle (started : Nat) (place : Place) (head : StepHead)
    (ended : Ended (Flow × Option String × StepStatus)) (st : RunState) :
    Ended Flow × StepTrace × RunState :=
  let time := Elapsed.ofMillis (st.world.now - started)
  match ended with
  | .ok (flow, provider, status) =>
    let context := match head.assignTo with
      | some key => st.context.assign key flow.value
      | none => st.context
    (.ok (flow.after head.returns), ⟨place.text, head.op, status, provider, time, none⟩,
      { st with context := context })
  | .error (.failed f) =>
    (.error (.failed f), ⟨place.text, head.op, .failed, none, time, some f.message⟩, st)
  | .error .interrupted =>
    (.error .interrupted,
      ⟨place.text, head.op, .failed, none, .ofMillis 0, some Failure.cancelled.message⟩, st)

end RunState

namespace Surroundings

mutual

/-- Runs the step at a place. -/
def runNode (s : Surroundings) (fallbacks : List String) (place : Place) :
    Node → RunState → Ran
  | .plain head act, st =>
    let (ended, w) := s.attempt fallbacks st.context st.world act
    let (flow, entry, after) := RunState.settle st.world.now place head
      (ended.map fun p => (.next p.1.1, p.1.2, p.2)) { st with world := w }
    (flow, [entry], after)
  | .branch head condition ifTrue ifFalse, st =>
    let ran : Ran :=
      match st.context.condition s.config.unresolved condition with
      | .error f => (.error (.failed f), [], st)
      | .ok true => runNodes s fallbacks (place.inside true) 0 .null ifTrue st
      | .ok false => runNodes s fallbacks (place.inside false) 0 .null ifFalse st
    let (flow, entry, after) := RunState.settle st.world.now place head
      (ran.1.map fun flow => (flow, none, .completed)) ran.2.2
    (flow, entry :: ran.2.1, after)

/-- Runs steps in order, the first of them at an index; `last` is the result if there are none. -/
def runNodes (s : Surroundings) (fallbacks : List String) (around : List (Nat × Bool))
    (index : Nat) (last : Value) : List Node → RunState → Ran
  | [], st => (.ok (.next last), [], st)
  | n :: rest, st =>
    match runNode s fallbacks ⟨around, index⟩ n st with
    | (.ok (.next v), entries, st) =>
      let (ended, more, st) := runNodes s fallbacks around (index + 1) v rest st
      (ended, entries ++ more, st)
    | ran => ran

end

end Surroundings

/-! ## Executions -/

/-- Everything that one execution gave. -/
structure Execution where
  result : Except Failure Value
  status : ExecutionStatus
  steps : List StepTrace
  /-- the context at the end -/
  context : Context
  startedAt : Nat
  endedAt : Nat

namespace Execution

/-- The status of an execution that ended so. -/
def statusOf : Ended Flow → ExecutionStatus
  | .ok (.next _) => .completed
  | .ok (.returned _) => .returned
  | .error .interrupted => .cancelled
  | .error (.failed .cancelled) => .cancelled
  | .error (.failed _) => .failed

/-- The result of an execution that ended so. -/
def resultOf : Ended Flow → Except Failure Value
  | .ok flow => .ok flow.value
  | .error stop => .error stop.failure

/-- The time an execution took. -/
def elapsed (e : Execution) : Elapsed := .ofMillis (e.endedAt - e.startedAt)

/-- The record of an execution; `calendar` gives the date of an instant. -/
def record (e : Execution) (id : String) (calendar : Nat → Timestamp) : ExecutionRecord :=
  ⟨id, calendar e.startedAt, some (calendar e.endedAt), e.status, e.steps⟩

end Execution

namespace Surroundings

/-- Whether the caller has given up already. -/
def isCut (s : Surroundings) (now : Nat) : Bool := s.cut.any (· ≤ now)

/-- What becomes of a recipe.  All its steps are read first; nothing is begun if one of them is not
allowed, or if the caller has given up already. -/
def run (s : Surroundings) (w : World) (r : Recipe) : Ran :=
  let st : RunState := ⟨w, .empty⟩
  match Node.decode w.catalog.hasAction s.config.maxDepth r.steps with
  | .error f => (.error (.failed f), [], st)
  | .ok nodes =>
    if s.isCut w.now then (.error .interrupted, [], st)
    else s.runNodes (r.fallbackOrder.map (·.provider)) [] 0 .null nodes st

/-- Executes a recipe. -/
def execute (s : Surroundings) (w : World) (r : Recipe) : Execution × World :=
  let (ended, steps, st) := s.run w r
  (⟨Execution.resultOf ended, Execution.statusOf ended, steps, st.context, w.now, st.world.now⟩,
    st.world)

end Surroundings

end Planwright
