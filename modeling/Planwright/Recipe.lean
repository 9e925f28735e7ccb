import Planwright.Value.Shape
import Planwright.Double.Binary

set_option autoImplicit false

/-!
# Recipes

A recipe is a plan: steps in order, a confidence, and other providers to fall back on.  A step
keeps its tag as text and its fields as values; which tags are allowed is decided when the
recipe is decoded, before any of it runs.

A template of a recipe has the shape of a recipe, its texts still holding references.
-/

namespace Planwright

/-- A provider to try in place of one that failed; a higher confidence is tried earlier. -/
structure Fallback where
  provider : String
  confidence : Float
  deriving Repr, Inhabited

namespace Fallback

/-- The fields as they are declared. -/
def declared : List Field :=
  [.required "provider" Shape.text,
    .optional "confidence" Shape.double]

/-- Reads a fallback; the confidence is zero if absent. -/
def ofValue : Shape Fallback := fun v => do
  let fields ← Shape.record declared v
  let confidence ← fields.field? "confidence" Shape.double
  let provider ← fields.field? "provider" Shape.text
  let provider ← require "provider" provider
  return ⟨provider, confidence.getD 0⟩

/-- Writes a fallback. -/
def toValue (f : Fallback) : Value :=
  .ofMembers [("confidence", .ofFloat f.confidence), ("provider", .text f.provider)]

end Fallback

/-- One step of a recipe. -/
structure Step where
  /-- the tag that says what to do -/
  op : String
  /-- the key of the context that receives the result -/
  assignTo : Option String
  /-- whether the recipe ends with this step's result -/
  returns : Bool
  /-- what else the step says -/
  fields : Dict Value
  deriving Repr, Inhabited

namespace Step

/-- The names that belong to every step and are no free fields. -/
def reserved : List String := ["assignTo", "returns", "type"]

/-- Reads a step, which is always an object.  Whatever is not reserved becomes a free field. -/
def ofValue : Shape Step := fun v => do
  let members ← Shape.members v
  let assignTo ← members.nullable? "assignTo" Shape.text
  let returns ← members.field? "returns" Shape.bool
  let op ← members.field? "type" Shape.text
  let op ← require "type" op
  return ⟨op, assignTo, returns.getD false,
    Dict.ofEntries (members.filter fun m => !reserved.contains m.1)⟩

/-- Writes a step; `returns` is written only when it is set. -/
def toValue (s : Step) : Value :=
  .ofMembers
    (("type", .text s.op) :: Value.optional "assignTo" .text s.assignTo
      ++ (if s.returns then [("returns", .bool true)] else []) ++ s.fields)

end Step

/-- A plan. -/
structure Recipe where
  confidence : Float
  steps : List Step
  fallbacks : List Fallback
  deriving Repr, Inhabited

namespace Recipe

/-- The fields as they are declared. -/
def declared : List Field :=
  [.required "confidence" Shape.double,
    .required "steps" (Shape.list Step.ofValue),
    .optional "fallbacks" (Shape.list Fallback.ofValue)]

/-- Reads a recipe; only the fallbacks may be absent. -/
def ofValue : Shape Recipe := fun v => do
  let fields ← Shape.record declared v
  let confidence ← fields.field? "confidence" Shape.double
  let fallbacks ← fields.field? "fallbacks" (Shape.list Fallback.ofValue)
  let steps ← fields.field? "steps" (Shape.list Step.ofValue)
  let confidence ← require "confidence" confidence
  let steps ← require "steps" steps
  return ⟨confidence, steps, fallbacks.getD []⟩

/-- Writes a recipe; fallbacks are written only if there are any. -/
def toValue (r : Recipe) : Value :=
  .ofMembers
    ([("confidence", .ofFloat r.confidence), ("steps", .list (r.steps.map Step.toValue))]
      ++ (if r.fallbacks.isEmpty then []
          else [("fallbacks", .list (r.fallbacks.map Fallback.toValue))]))

/-- The fallbacks in the order in which they are tried: by falling confidence, those of the same
confidence as they were declared. -/
def fallbackOrder (r : Recipe) : List Fallback :=
  r.fallbacks.mergeSort fun a b => Double.orderKey b.confidence ≤ Double.orderKey a.confidence

/-- Whether the recipe is confident enough for a threshold. -/
def meets (r : Recipe) (threshold : Float) : Bool := threshold ≤ r.confidence

end Recipe

end Planwright
