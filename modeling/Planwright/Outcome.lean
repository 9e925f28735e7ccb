import Planwright.Elapsed
import Planwright.Failure

set_option autoImplicit false

/-!
# Outcomes

What is handed back for one request: the result, or what is known about the failure, together
with where the plan came from.
-/

namespace Planwright

namespace FailureKind

/-- The words for all kinds. -/
def names : List (String × FailureKind) := all.map fun k => (k.name, k)

end FailureKind

namespace Severity

/-- The word for the severity. -/
def name : Severity → String
  | .low => "low"
  | .medium => "medium"
  | .high => "high"

/-- The words for all severities. -/
def names : List (String × Severity) := [Severity.low, .medium, .high].map fun s => (s.name, s)

end Severity

namespace Disposition

/-- The word for the disposition. -/
def name : Disposition → String
  | .needsClarification => "needs_clarification"
  | .retryable => "retryable"
  | .fatal => "fatal"

/-- The words for all dispositions. -/
def names : List (String × Disposition) :=
  [Disposition.needsClarification, .retryable, .fatal].map fun d => (d.name, d)

end Disposition

/-- What a caller is told about a failure besides its wording. -/
structure FailureInfo where
  kind : FailureKind
  severity : Severity
  retryable : Bool
  disposition : Disposition
  deriving DecidableEq, Repr, Inhabited

namespace FailureInfo

/-- What a caller is told about a failure. -/
def ofFailure (f : Failure) : FailureInfo := ⟨f.kind, f.severity, f.isRetryable, f.disposition⟩

/-- The fields as they are declared. -/
def declared : List Field :=
  [.required "kind" (Shape.choice FailureKind.names),
    .required "severity" (Shape.choice Severity.names),
    .required "retryable" Shape.bool,
    .required "disposition" (Shape.choice Disposition.names)]

/-- Reads what is known about a failure. -/
def ofValue : Shape FailureInfo := fun v => do
  let fields ← Shape.record declared v
  let disposition ← fields.field? "disposition" (Shape.choice Disposition.names)
  let kind ← fields.field? "kind" (Shape.choice FailureKind.names)
  let retryable ← fields.field? "retryable" Shape.bool
  let severity ← fields.field? "severity" (Shape.choice Severity.names)
  let kind ← require "kind" kind
  let severity ← require "severity" severity
  let retryable ← require "retryable" retryable
  let disposition ← require "disposition" disposition
  return ⟨kind, severity, retryable, disposition⟩

/-- Writes what is known about a failure. -/
def toValue (i : FailureInfo) : Value :=
  .ofMembers [("kind", .text i.kind.name), ("severity", .text i.severity.name),
    ("retryable", .bool i.retryable), ("disposition", .text i.disposition.name)]

end FailureInfo

/-- The answer to one request. -/
structure Outcome where
  success : Bool
  data : Option Value
  /-- the result if it is a text, or the wording of the failure -/
  message : Option String
  /-- where the plan came from -/
  source : String
  executionTime : Option Elapsed
  /-- absent if nothing was executed -/
  executionId : Option String
  /-- whether the request should be answered in another way -/
  escalate : Bool
  error : Option FailureInfo
  deriving Repr, Inhabited

namespace Outcome

/-- The outcome of an execution that gave a result. -/
def ofResult (data : Value) (source : String) : Outcome :=
  ⟨true, some data, data.text?, source, none, none, false, none⟩

/-- The outcome of a failure. -/
def ofFailure (f : Failure) (source : String) : Outcome :=
  ⟨false, none, some f.message, source, none, none, f.shouldEscalate,
    some (FailureInfo.ofFailure f)⟩

/-- The outcome with the execution it came from. -/
def withExecution (o : Outcome) (id : String) (time : Option Elapsed) : Outcome :=
  { o with executionId := some id, executionTime := time }

/-- The outcome with the hint that the request should be answered in another way. -/
def escalating (o : Outcome) : Outcome := { o with escalate := true }

/-- The fields as they are declared. -/
def declared : List Field :=
  [.required "success" Shape.bool,
    .optional "data" (Shape.nullable Shape.any),
    .optional "message" (Shape.nullable Shape.text),
    .required "source" Shape.text,
    .optional "executionTimeMs" (Shape.nullable Elapsed.ofValue),
    .optional "executionId" (Shape.nullable Shape.text),
    .optional "escalate" Shape.bool,
    .optional "error" (Shape.nullable FailureInfo.ofValue)]

/-- Reads an outcome; `success` and `source` are required. -/
def ofValue : Shape Outcome := fun v => do
  let fields ← Shape.record declared v
  let data ← fields.nullable? "data" Shape.any
  let error ← fields.nullable? "error" FailureInfo.ofValue
  let escalate ← fields.field? "escalate" Shape.bool
  let executionId ← fields.nullable? "executionId" Shape.text
  let executionTime ← fields.nullable? "executionTimeMs" Elapsed.ofValue
  let message ← fields.nullable? "message" Shape.text
  let source ← fields.field? "source" Shape.text
  let success ← fields.field? "success" Shape.bool
  let success ← require "success" success
  let source ← require "source" source
  return ⟨success, data, message, source, executionTime, executionId, escalate.getD false, error⟩

/-- Writes an outcome; what is absent is left out. -/
def toValue (o : Outcome) : Value :=
  .ofMembers
    ([("success", .bool o.success), ("source", .text o.source), ("escalate", .bool o.escalate)]
      ++ Value.optional "data" id o.data ++ Value.optional "message" .text o.message
      ++ Value.optional "executionTimeMs" Elapsed.toValue o.executionTime
      ++ Value.optional "executionId" .text o.executionId
      ++ Value.optional "error" FailureInfo.toValue o.error)

end Outcome

end Planwright
