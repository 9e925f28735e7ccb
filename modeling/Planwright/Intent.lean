import Planwright.Value.Shape

set_option autoImplicit false

/-!
# Intents

What a user wants, as an outside classifier understood it: a domain, an action in it, the
entities found in the request and the confidence in all this.
-/

namespace Planwright

/-- What was found in the request: a main subject, and further named parameters. -/
structure Entities where
  target : Option String
  parameters : Dict Value
  deriving Repr, Inhabited

namespace Entities

/-- Nothing was found. -/
def none : Entities := ⟨.none, []⟩

/-- The fields as they are declared. -/
def declared : List Field :=
  [.optional "target" (Shape.nullable Shape.text),
    .optional "parameters" Shape.members]

/-- Reads entities; both fields may be absent. -/
def ofValue : Shape Entities := fun v => do
  let fields ← Shape.record declared v
  let parameters ← fields.field? "parameters" Shape.members
  let target ← fields.nullable? "target" Shape.text
  return ⟨target, parameters.getD []⟩

/-- Writes entities, absent ones left out. -/
def toValue (e : Entities) : Value :=
  .ofMembers
    ((if e.parameters.isEmpty then [] else [("parameters", Value.object e.parameters)])
      ++ Value.optional "target" Value.text e.target)

/-- All entities under their names.  A parameter named `target` wins over the subject. -/
def flat (e : Entities) : Dict Value :=
  let subject := match e.target with
    | some t => [("target", Value.text t)]
    | .none => []
  e.parameters.foldl (fun d p => d.put p.1 p.2) subject

end Entities

/-- A classified request. -/
structure Intent where
  domain : String
  action : String
  entities : Entities
  confidence : Float
  deriving Repr, Inhabited

namespace Intent

/-- The fields as they are declared. -/
def declared : List Field :=
  [.required "domain" Shape.text,
    .required "action" Shape.text,
    .optional "entities" Entities.ofValue,
    .optional "confidence" Shape.double]

/-- Reads an intent; domain and action are required. -/
def ofValue : Shape Intent := fun v => do
  let fields ← Shape.record declared v
  let action ← fields.field? "action" Shape.text
  let confidence ← fields.field? "confidence" Shape.double
  let domain ← fields.field? "domain" Shape.text
  let entities ← fields.field? "entities" Entities.ofValue
  let domain ← require "domain" domain
  let action ← require "action" action
  return ⟨domain, action, entities.getD Entities.none, confidence.getD 0⟩

/-- Writes an intent. -/
def toValue (i : Intent) : Value :=
  .ofMembers [("action", .text i.action), ("confidence", .ofFloat i.confidence),
    ("domain", .text i.domain), ("entities", i.entities.toValue)]

end Intent

end Planwright
