import Planwright.Elapsed
import Planwright.Timestamp

set_option autoImplicit false

/-!
# The trace of an execution

One entry for each step that was begun, in the order of their beginning, and the record that
holds them together.
-/

namespace Planwright

/-- How far a step got. -/
inductive StepStatus where
  | running
  /-- done at the first attempt -/
  | completed
  /-- done by another provider -/
  | completedViaFallback
  | failed
  deriving DecidableEq, Repr, Inhabited

namespace StepStatus

/-- The word for the status. -/
def name : StepStatus → String
  | .running => "running"
  | .completed => "completed"
  | .completedViaFallback => "completed_via_fallback"
  | .failed => "failed"

/-- The words for all statuses. -/
def names : List (String × StepStatus) :=
  [StepStatus.running, .completed, .completedViaFallback, .failed].map fun s => (s.name, s)

end StepStatus

/-- How far an execution got. -/
inductive ExecutionStatus where
  | running
  /-- all steps were run -/
  | completed
  /-- a step ended the recipe with its result -/
  | returned
  | failed
  /-- the caller gave up -/
  | cancelled
  deriving DecidableEq, Repr, Inhabited

namespace ExecutionStatus

/-- The word for the status. -/
def name : ExecutionStatus → String
  | .running => "running"
  | .completed => "completed"
  | .returned => "returned"
  | .failed => "failed"
  | .cancelled => "cancelled"

/-- The words for all statuses. -/
def names : List (String × ExecutionStatus) :=
  [ExecutionStatus.running, .completed, .returned, .failed, .cancelled].map fun s => (s.name, s)

end ExecutionStatus

/-- What is known about one step. -/
structure StepTrace where
  /-- `"3"` for a step of the recipe, `"2/ifFalse/0"` for one in a branch -/
  path : String
  op : String
  status : StepStatus
  /-- the provider that gave the result -/
  provider : Option String
  duration : Elapsed
  /-- the wording of the failure -/
  error : Option String
  deriving Repr, Inhabited

namespace StepTrace

/-- The fields as they are declared. -/
def declared : List Field :=
  [.required "path" Shape.text,
    .required "op" Shape.text,
    .required "status" (Shape.choice StepStatus.names),
    .optional "provider" (Shape.nullable Shape.text),
    .required "duration" Elapsed.ofValue,
    .optional "error" (Shape.nullable Shape.text)]

/-- Reads an entry. -/
def ofValue : Shape StepTrace := fun v => do
  let fields ← Shape.record declared v
  let duration ← fields.field? "duration" Elapsed.ofValue
  let error ← fields.nullable? "error" Shape.text
  let op ← fields.field? "op" Shape.text
  let path ← fields.field? "path" Shape.text
  let provider ← fields.nullable? "provider" Shape.text
  let status ← fields.field? "status" (Shape.choice StepStatus.names)
  let path ← require "path" path
  let op ← require "op" op
  let status ← require "status" status
  let duration ← require "duration" duration
  return ⟨path, op, status, provider, duration, error⟩

/-- Writes an entry. -/
def toValue (t : StepTrace) : Value :=
  .ofMembers
    ([("path", .text t.path), ("op", .text t.op), ("status", .text t.status.name),
        ("duration", t.duration.toValue)]
      ++ Value.optional "provider" .text t.provider ++ Value.optional "error" .text t.error)

end StepTrace

/-- The record of one execution. -/
structure ExecutionRecord where
  id : String
  startedAt : Timestamp
  endedAt : Option Timestamp
  status : ExecutionStatus
  steps : List StepTrace
  deriving Repr, Inhabited

namespace ExecutionRecord

/-- The fields as they are declared.  An object may leave out the end, which a list must hold. -/
def declared : List Field :=
  [.required "id" Shape.text,
    .required "startedAt" Timestamp.ofValue,
    .required "endedAt" (Shape.nullable Timestamp.ofValue),
    .required "status" (Shape.choice ExecutionStatus.names),
    .required "steps" (Shape.list StepTrace.ofValue)]

/-- Reads a record; only the end may be absent. -/
def ofValue : Shape ExecutionRecord := fun v => do
  let fields ← Shape.record declared v
  let endedAt ← fields.nullable? "endedAt" Timestamp.ofValue
  let id ← fields.field? "id" Shape.text
  let startedAt ← fields.field? "startedAt" Timestamp.ofValue
  let status ← fields.field? "status" (Shape.choice ExecutionStatus.names)
  let steps ← fields.field? "steps" (Shape.list StepTrace.ofValue)
  let id ← require "id" id
  let startedAt ← require "startedAt" startedAt
  let status ← require "status" status
  let steps ← require "steps" steps
  return ⟨id, startedAt, endedAt, status, steps⟩

/-- Writes a record; an absent end is written as null. -/
def toValue (r : ExecutionRecord) : Value :=
  .ofMembers [("id", .text r.id), ("startedAt", r.startedAt.toValue),
    ("endedAt", match r.endedAt with
      | some t => t.toValue
      | none => .null),
    ("status", .text r.status.name), ("steps", .list (r.steps.map StepTrace.toValue))]

/-- The time an ended execution took. -/
def elapsed (r : ExecutionRecord) : Option Elapsed :=
  r.endedAt.map fun t => Elapsed.between r.startedAt.nanos t.nanos

/-- The entry of the step at a path. -/
def step? (r : ExecutionRecord) (path : String) : Option StepTrace :=
  r.steps.find? (·.path == path)

end ExecutionRecord

end Planwright
