import Planwright.Instruction.Basic
import Planwright.Recipe
import Planwright.Template.Basic

set_option autoImplicit false

/-!
# Reading steps as instructions

Eight tags are built in; every other tag must be the qualified name of an action that is there.
All steps are read before any is run, those of branches that will never be taken included.

Conditionals may be nested only so deeply.  The reader of branches is the reader of steps with one
level less, so recursion is on the number of levels.
-/

namespace Planwright

/-- The built-in tags of plain instructions. -/
inductive ActTag where
  | apiCall
  | parallelApiCalls
  | batchApiCalls
  | calculate
  | formatResponse
  | transform
  | error
  deriving DecidableEq, Repr, Inhabited

/-- The built-in tags. -/
inductive Tag where
  | act (tag : ActTag)
  | conditional
  deriving DecidableEq, Repr, Inhabited

namespace Tag

/-- The word for a tag. -/
def name : Tag → String
  | .act .apiCall => "apiCall"
  | .act .parallelApiCalls => "parallelApiCalls"
  | .act .batchApiCalls => "batchApiCalls"
  | .act .calculate => "calculate"
  | .act .formatResponse => "formatResponse"
  | .act .transform => "transform"
  | .act .error => "error"
  | .conditional => "conditional"

/-- All built-in tags. -/
def all : List Tag :=
  [.act .apiCall, .act .parallelApiCalls, .act .batchApiCalls, .act .calculate,
    .act .formatResponse, .act .transform, .act .error, .conditional]

theorem mem_all (t : Tag) : t ∈ all := by
  cases t with
  | act t => cases t <;> decide
  | conditional => decide

/-- The built-in tag that a word names. -/
def ofName? (word : String) : Option Tag := all.find? (·.name == word)

end Tag

namespace Node

/-! ## Fields -/

/-- A shape error in the fields of a step as a failure. -/
def shaped {α : Type} (op : String) : Except ShapeError α → Except Failure α
  | .ok a => .ok a
  | .error e => .error (.invalid (op ++ ": " ++ e.message))

/-- What a call says, before its words are looked up. -/
structure RawCall where
  provider : Option String
  category : Option String
  requirements : Requirements
  endpoint : String
  params : Value
  method : Option String
  body : Option Value
  transform : Option (String × Option String × Option Nat)

/-- The fields of the transform of an answer as they are declared. -/
def transformFields : List Field :=
  [.required "function" Shape.text,
    .optional "field" (Shape.nullable Shape.text),
    .optional "decimals" (Shape.nullable (Shape.natural 32))]

/-- Reads the transform of an answer. -/
def rawTransform : Shape (String × Option String × Option Nat) := fun v => do
  let fields ← Shape.record transformFields v
  let places ← fields.nullable? "decimals" (Shape.natural 32)
  let field ← fields.nullable? "field" Shape.text
  let function ← fields.field? "function" Shape.text
  let function ← require "function" function
  return (function, field, places)

/-- The fields of a call as they are declared. -/
def callFields : List Field :=
  [.optional "provider" (Shape.nullable Shape.text),
    .optional "category" (Shape.nullable Shape.text),
    .optional "requirements" Requirements.ofValue,
    .required "endpoint" Shape.text,
    .optional "params" Shape.any,
    .optional "method" (Shape.nullable Shape.text),
    .optional "body" (Shape.nullable Shape.any),
    .optional "transform" (Shape.nullable rawTransform)]

/-- Reads a call; only the endpoint is required. -/
def rawCall : Shape RawCall := fun v => do
  let fields ← Shape.record callFields v
  let body ← fields.nullable? "body" Shape.any
  let category ← fields.nullable? "category" Shape.text
  let endpoint ← fields.field? "endpoint" Shape.text
  let method ← fields.nullable? "method" Shape.text
  let params ← fields.field? "params" Shape.any
  let provider ← fields.nullable? "provider" Shape.text
  let requirements ← fields.field? "requirements" Requirements.ofValue
  let transform ← fields.nullable? "transform" rawTransform
  let endpoint ← require "endpoint" endpoint
  return ⟨provider, category, requirements.getD Requirements.none, endpoint,
    params.getD .null, method, body, transform⟩

/-- Whom a call is addressed to.  A named provider wins over a category; a call that names neither
is allowed only where its target does not count. -/
def targetOf (op : String) (needed : Bool) (raw : RawCall) : Except Failure CallTarget :=
  match raw.provider, raw.category with
  | some id, _ => .ok (.provider id)
  | none, some category => .ok (.category category raw.requirements)
  | none, none =>
    if needed then .error (.invalid (op ++ ": either 'provider' or 'category' is required"))
    else .ok (.provider "")

/-- Reads a call of a step. -/
def decodeCall (op : String) (needed : Bool) (v : Value) : Except Failure ApiCall := do
  let raw ← shaped op (rawCall v)
  let target ← targetOf op needed raw
  let method ← match raw.method with
    | none => pure Method.get
    | some word => Method.ofName word
  let transform ← match raw.transform with
    | none => pure none
    | some (word, field, places) => do
      let function ← Transform.ofName word
      pure (some ⟨function, field, places⟩)
  return ⟨target, raw.endpoint, raw.params, method, raw.body, transform⟩

/-- Reads the calls of a step of several calls. -/
def callsField (fields : Dict Value) : Except ShapeError (Option (List Value)) :=
  fields.field? "calls" (Shape.list Shape.any)

/-- The fields of an error step, its kind still a word. -/
def rawError (fields : Dict Value) : Except ShapeError (ErrorStep × Option String) := do
  let escalate ← fields.field? "escalate" Shape.bool
  let intent ← fields.nullable? "intent" Intent.ofValue
  let kind ← fields.nullable? "kind" Shape.text
  let message ← fields.field? "message" Shape.text
  let needsClarification ← fields.field? "needsClarification" Shape.bool
  let message ← require "message" message
  return (⟨message, none, needsClarification.getD false, escalate.getD false, intent⟩, kind)

/-- A field under its second spelling, which must not be given if the first one is. -/
def secondSpelling {α : Type} (fields : Dict Value) (name second : String) (shape : Shape α)
    (first : Option α) : Except ShapeError (Option α) :=
  match first with
  | some a => if fields.contains second then .error (.duplicate name) else .ok (some a)
  | none => fields.field? second shape

/-- The fields of a conditional, its branches still raw. -/
def rawConditional (fields : Dict Value) : Except ShapeError (Value × List Step × List Step) := do
  let branch : Shape (List Step) := Shape.list Step.ofValue
  let condition ← fields.field? "condition" Shape.any
  let ifFalse ← fields.field? "ifFalse" branch
  let ifTrue ← fields.field? "ifTrue" branch
  let ifFalse ← secondSpelling fields "ifFalse" "if_false" branch ifFalse
  let ifTrue ← secondSpelling fields "ifTrue" "if_true" branch ifTrue
  let condition ← require "condition" condition
  return (condition, ifTrue.getD [], ifFalse.getD [])

/-! ## Steps -/

/-- Reads the fields of a built-in plain instruction. -/
def decodeAct (op : String) (fields : Dict Value) : ActTag → Except Failure Act
  | .apiCall => (decodeCall op true (.object fields)).map .call
  | .parallelApiCalls => do
    let calls ← shaped op do require "calls" (← callsField fields)
    return .parallel (← calls.mapM (decodeCall op true))
  | .batchApiCalls => do
    let (provider, calls) ← shaped op do
      let calls ← callsField fields
      let provider ← fields.field? "provider" Shape.text
      let provider ← require "provider" provider
      let calls ← require "calls" calls
      return (provider, calls)
    return .batch provider (← calls.mapM (decodeCall op false))
  | .calculate => do
    let (word, params) ← shaped op do
      let word ← fields.field? "operation" Shape.text
      let params ← fields.field? "params" Shape.any
      return (← require "operation" word, params.getD .null)
    return .calculate (← Calculation.ofName word) params
  | .formatResponse => do
    let template ← shaped op do require "template" (← fields.field? "template" Shape.text)
    return .format template
  | .transform => do
    let (input, word, places) ← shaped op do
      let places ← fields.nullable? "decimals" (Shape.natural 32)
      let word ← fields.field? "function" Shape.text
      let input ← fields.field? "input" Shape.text
      let input ← require "input" input
      let word ← require "function" word
      return (input, word, places)
    return .transform input (← Transform.ofName word) places
  | .error => do
    let (e, word) ← shaped op (rawError fields)
    match word with
    | none => return .fail e
    | some word =>
      match FailureKind.ofName? word with
      | some kind => return .fail { e with kind := some kind }
      | none => throw (.invalid ("error: unknown kind '" ++ word ++ "'"))

/-- Whether a tag is the qualified name of an action that is there. -/
def isAction (hasAction : String → Bool) (op : String) : Bool :=
  op.toList.contains '.' && hasAction op

/-- Reads a step from the reader of its branches. -/
def decodeStep (hasAction : String → Bool) (branch : List Step → Except Failure (List Node))
    (s : Step) : Except Failure Node := do
  let head : StepHead := ⟨s.op, s.assignTo, s.returns⟩
  match Tag.ofName? s.op with
  | some .conditional =>
    let (condition, ifTrue, ifFalse) ← shaped s.op (rawConditional s.fields)
    let ifTrue ← branch ifTrue
    let ifFalse ← branch ifFalse
    return .branch head condition ifTrue ifFalse
  | some (.act tag) => return .plain head (← decodeAct s.op s.fields tag)
  | none =>
    if isAction hasAction s.op then
      let params ← shaped s.op (s.fields.field? "params" Shape.any)
      return .plain head (.custom s.op (params.getD .null))
    else throw (.unknownOperation ("step type '" ++ s.op ++ "' is not allowed"))

/-- Reads steps with so many levels left, the present one included; `limit` is how many
conditionals may enclose one another. -/
def decodeWithin (hasAction : String → Bool) (limit : Nat) :
    Nat → List Step → Except Failure (List Node)
  | 0, _ =>
    .error (.invalid ("conditional nesting exceeds " ++ toString limit ++ " levels"))
  | levels + 1, steps => steps.mapM (decodeStep hasAction (decodeWithin hasAction limit levels))

/-- Reads the steps of a recipe. -/
def decode (hasAction : String → Bool) (limit : Nat) (steps : List Step) :
    Except Failure (List Node) :=
  decodeWithin hasAction limit (limit + 1) steps

end Node

end Planwright
