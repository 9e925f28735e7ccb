import Planwright.Calculation
import Planwright.Transform
import Planwright.Provider.Entry

set_option autoImplicit false

/-!
# Instructions

A recipe is run only after each of its steps has been read as one of a closed set of instructions.
An instruction is either plain, or a conditional that holds further instructions; both carry what
every step has: its tag, where its result goes, and whether the recipe ends with it.
-/

namespace Planwright

/-- Whom a call is addressed to. -/
inductive CallTarget where
  /-- the provider of this name, which may hold references -/
  | provider (id : String)
  /-- the best provider of a category that meets the demands -/
  | category (name : String) (requirements : Requirements)
  deriving Repr, Inhabited

/-- What is done to the answer of a call. -/
structure ResponseTransform where
  function : Transform
  /-- the member that is changed, if not the whole answer -/
  field : Option String
  places : Option Nat
  deriving Repr, Inhabited

/-- A call with its references not yet resolved. -/
structure ApiCall where
  target : CallTarget
  endpoint : String
  params : Value
  method : Method
  body : Option Value
  transform : Option ResponseTransform
  deriving Repr, Inhabited

namespace ApiCall

/-- The same call, addressed to a provider. -/
def withProvider (c : ApiCall) (id : String) : ApiCall := { c with target := .provider id }

end ApiCall

/-- How a recipe fails on purpose. -/
structure ErrorStep where
  /-- the text of the failure, which may hold references -/
  message : String
  kind : Option FailureKind
  needsClarification : Bool
  escalate : Bool
  intent : Option Intent
  deriving Repr, Inhabited

namespace ErrorStep

/-- The failure with its final text: an escalation, or else a question, or else a failure of the
given kind. -/
def failure (e : ErrorStep) (text : String) : Failure :=
  if e.escalate then .escalation text e.intent
  else if e.needsClarification then .clarification text
  else .plain (e.kind.getD .unknown) text

end ErrorStep

/-- A plain instruction. -/
inductive Act where
  | call (c : ApiCall)
  /-- several calls at once -/
  | parallel (calls : List ApiCall)
  /-- several calls to one provider, one after the other -/
  | batch (provider : String) (calls : List ApiCall)
  | calculate (operation : Calculation) (params : Value)
  | format (template : String)
  | transform (input : String) (function : Transform) (places : Option Nat)
  | fail (e : ErrorStep)
  /-- an action of a capability, by its qualified name -/
  | custom (action : String) (params : Value)
  deriving Repr, Inhabited

namespace Act

/-- Whether the instruction calls providers, so that another provider may take over. -/
def usesProviders : Act → Bool
  | .call _ | .parallel _ | .batch _ _ => true
  | _ => false

/-- The same instruction with every call addressed to one provider. -/
def withProvider (id : String) : Act → Act
  | .call c => .call (c.withProvider id)
  | .parallel calls => .parallel (calls.map (·.withProvider id))
  | .batch _ calls => .batch id calls
  | act => act

end Act

/-- What every step has. -/
structure StepHead where
  /-- the tag of the step -/
  op : String
  /-- the key of the context that receives the result -/
  assignTo : Option String
  /-- whether the recipe ends with this step's result -/
  returns : Bool
  deriving DecidableEq, Repr, Inhabited

/-- A step that has been read as an instruction. -/
inductive Node where
  | plain (head : StepHead) (act : Act)
  | branch (head : StepHead) (condition : Value) (ifTrue ifFalse : List Node)
  deriving Repr, Inhabited

namespace Node

/-- What the step has in common with every step. -/
def head : Node → StepHead
  | .plain h _ => h
  | .branch h _ _ _ => h

mutual

/-- How many conditionals enclose one another. -/
def nesting : Node → Nat
  | .plain _ _ => 0
  | .branch _ _ ifTrue ifFalse => max (nestingAll ifTrue) (nestingAll ifFalse) + 1

/-- The deepest nesting among several instructions. -/
def nestingAll : List Node → Nat
  | [] => 0
  | n :: ns => max (nesting n) (nestingAll ns)

end

end Node

end Planwright
