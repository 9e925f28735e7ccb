import Planwright.Recipe
import Planwright.Template.Render

set_option autoImplicit false

/-!
# From templates to recipes

A template becomes a recipe by filling in what is known.  References to names that are not known
stay and are resolved when the recipe is run.  What is filled in is escaped, so that no text of a
user is ever read as a reference.
-/

namespace Planwright

namespace Value

mutual

/-- The value with every text in it escaped. -/
def inert : Value → Value
  | .text s => .text (Template.escapeString s)
  | .list items => .list (inertItems items)
  | .object members => .object (inertMembers members)
  | v => v

/-- The items of a list, escaped. -/
def inertItems : List Value → List Value
  | [] => []
  | v :: rest => inert v :: inertItems rest

/-- The members of an object, escaped; their names are kept. -/
def inertMembers : List (String × Value) → List (String × Value)
  | [] => []
  | (k, v) :: rest => (k, inert v) :: inertMembers rest

end

/-- A text with what is known filled in. -/
def substituteText (lookup : String → Option Value) (s : String) : String :=
  String.ofList (Template.substitute lookup (Template.parse s))

/-- A text with what is known filled in; a text that is exactly one reference becomes the value
itself. -/
def substituteWhole (lookup : String → Option Value) (s : String) : Value :=
  match (Template.parse s).single?.bind lookup with
  | some v => v.inert
  | none => .text (substituteText lookup s)

mutual

/-- The value with what is known filled in. -/
def substitute (lookup : String → Option Value) : Value → Value
  | .text s => substituteWhole lookup s
  | .list items => .list (substituteItems lookup items)
  | .object members => .object (substituteMembers lookup members)
  | v => v

/-- The items of a list with what is known filled in. -/
def substituteItems (lookup : String → Option Value) : List Value → List Value
  | [] => []
  | v :: rest => substitute lookup v :: substituteItems lookup rest

/-- The members of an object with what is known filled in; their names are kept. -/
def substituteMembers (lookup : String → Option Value) :
    List (String × Value) → List (String × Value)
  | [] => []
  | (k, v) :: rest => (k, substitute lookup v) :: substituteMembers lookup rest

end

end Value

namespace Recipe

/-- A step with what is known filled in; its tag is kept. -/
def instantiateStep (lookup : String → Option Value) (s : Step) : Step :=
  { op := s.op
    assignTo := s.assignTo.map (Value.substituteText lookup)
    returns := s.returns
    fields := Value.substituteMembers lookup s.fields }

/-- A fallback with what is known filled in. -/
def instantiateFallback (lookup : String → Option Value) (f : Fallback) : Fallback :=
  { f with provider := Value.substituteText lookup f.provider }

/-- The recipe of a template, with the entities filled in. -/
def instantiate (template : Recipe) (entities : Dict Value) : Recipe :=
  { confidence := template.confidence
    steps := template.steps.map (instantiateStep entities.get?)
    fallbacks := template.fallbacks.map (instantiateFallback entities.get?) }

end Recipe

end Planwright
