import Planwright.Capability.Trigger
import Planwright.Provider.Manifest
import Planwright.Recipe

set_option autoImplicit false

/-!
# Capabilities

A capability is a bundle that is installed as a whole: triggers, recipes under their names, actions
and providers.  Its manifest is the part that can be written down; the actions are only named
there and have to be bound before the capability is installed.
-/

namespace Planwright

/-! ## Manifests -/

/-- The written form of a capability. -/
structure CapabilityManifest where
  name : String
  version : String
  triggers : List TriggerSpec
  templates : Dict Recipe
  /-- the names of the actions -/
  actions : List String
  providers : Dict Manifest
  deriving Repr, Inhabited

namespace CapabilityManifest

/-- The fields as they are declared. -/
def declared : List Field :=
  [.required "name" Shape.text,
    .required "version" Shape.text,
    .optional "triggers" (Shape.list TriggerSpec.ofValue),
    .optional "recipeTemplates" (Shape.dict Recipe.ofValue),
    .optional "customActions" (Shape.list Shape.text),
    .optional "providers" (Shape.dict Manifest.ofValue)]

/-- Reads a manifest; name and version are required. -/
def ofValue : Shape CapabilityManifest := fun v => do
  let fields ← Shape.record declared v
  let actions ← fields.field? "customActions" (Shape.list Shape.text)
  let name ← fields.field? "name" Shape.text
  let providers ← fields.field? "providers" (Shape.dict Manifest.ofValue)
  let templates ← fields.field? "recipeTemplates" (Shape.dict Recipe.ofValue)
  let triggers ← fields.field? "triggers" (Shape.list TriggerSpec.ofValue)
  let version ← fields.field? "version" Shape.text
  let name ← require "name" name
  let version ← require "version" version
  return ⟨name, version, triggers.getD [], templates.getD [], actions.getD [], providers.getD []⟩

/-- Writes a manifest. -/
def toValue (m : CapabilityManifest) : Value :=
  .ofMembers [("name", .text m.name), ("version", .text m.version),
    ("triggers", .list (m.triggers.map TriggerSpec.toValue)),
    ("recipeTemplates", .ofMembers (m.templates.mapValues Recipe.toValue)),
    ("customActions", .list (m.actions.map .text)),
    ("providers", .ofMembers (m.providers.mapValues Manifest.toValue))]

end CapabilityManifest

/-! ## Actions -/

/-- What an action answers, and after how many milliseconds. -/
structure ActionReply where
  delayMs : Nat
  result : Except Failure Value

/-- Something the host can do.  What it answers to parameters, in which every reference is resolved,
may depend on all actions invoked before. -/
abbrev Action : Type := List (String × Value) → Value → ActionReply

/-! ## Bundles -/

/-- A bundle to be installed.  An action that is only named is missing. -/
structure Capability where
  name : String
  version : String
  triggers : List TriggerSpec
  templates : Dict Recipe
  actions : Dict (Option Action)
  providers : Dict Manifest

namespace Capability

/-- A bundle without contents. -/
def new (name version : String) : Capability := ⟨name, version, [], [], [], []⟩

/-- The bundle of a manifest, its actions not yet bound. -/
def ofManifest (m : CapabilityManifest) : Capability :=
  { name := m.name
    version := m.version
    triggers := m.triggers
    templates := m.templates
    actions := m.actions.foldl (fun d a => d.place a none) []
    providers := m.providers }

/-- Adds a trigger. -/
def withTrigger (c : Capability) (t : TriggerSpec) : Capability :=
  { c with triggers := c.triggers ++ [t] }

/-- Adds a recipe, or replaces the one of the same name in its place. -/
def withTemplate (c : Capability) (name : String) (r : Recipe) : Capability :=
  { c with templates := c.templates.place name r }

/-- Binds an action, in its place if it has been named before. -/
def withAction (c : Capability) (name : String) (a : Action) : Capability :=
  { c with actions := c.actions.place name (some a) }

/-- Adds a provider, or replaces the one of the same name in its place. -/
def withProvider (c : Capability) (id : String) (m : Manifest) : Capability :=
  { c with providers := c.providers.place id m }

/-! ## What can be wrong with a bundle -/

/-- What can be wrong with a bundle. -/
inductive Fault where
  | emptyName
  | dottedName
  | emptyVersion
  | noTrigger
  | badConfidence (template : String)
  | noSteps (template : String)
  | badActionName (action : String)
  | unboundAction (action : String)
  deriving DecidableEq, Repr, Inhabited

namespace Fault

/-- The wording of a fault. -/
def message : Fault → String
  | .emptyName => "empty name"
  | .dottedName => "name must not contain '.'"
  | .emptyVersion => "empty version"
  | .noTrigger => "at least one trigger is required"
  | .badConfidence t => "template '" ++ t ++ "' confidence must be within [0, 1]"
  | .noSteps t => "template '" ++ t ++ "' has no steps"
  | .badActionName a => "invalid action name '" ++ a ++ "'"
  | .unboundAction a => "custom action '" ++ a ++ "' is not callable"

/-- A fault of the bundle of some name as a failure. -/
def failure (name : String) (f : Fault) : Failure :=
  .invalid ("capability '" ++ name ++ "': " ++ f.message)

end Fault

/-- The first fault of a recipe under its name. -/
def templateFault? (name : String) (r : Recipe) : Option Fault :=
  if !Manifest.isShare r.confidence then some (.badConfidence name)
  else if r.steps.isEmpty then some (.noSteps name)
  else none

/-- The first fault of an action under its name. -/
def actionFault? (name : String) (a : Option Action) : Option Fault :=
  if name.toList.isEmpty || name.toList.contains '.' then some (.badActionName name)
  else if a.isNone then some (.unboundAction name)
  else none

/-- The first thing that is wrong with the shape of a bundle. -/
def fault? (c : Capability) : Option Fault :=
  if (Text.trim c.name.toList).isEmpty then some .emptyName
  else if c.name.toList.contains '.' then some .dottedName
  else if (Text.trim c.version.toList).isEmpty then some .emptyVersion
  else if c.triggers.isEmpty then some .noTrigger
  else
    (c.templates.findSome? fun t => templateFault? t.1 t.2).or
      (c.actions.findSome? fun a => actionFault? a.1 a.2)

/-- The triggers of a bundle with nothing wrong in it. -/
def validate (c : Capability) : Except Failure (List Trigger) :=
  match c.fault? with
  | some f => .error (f.failure c.name)
  | none => c.triggers.mapM Trigger.compile

end Capability

end Planwright
