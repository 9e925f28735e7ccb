import Planwright.Capability.Basic
import Planwright.Provider.Registry

set_option autoImplicit false

/-!
# The catalog

What is installed: capabilities in the order of their installation, their actions under qualified
names such as `weather.lookup`, and all providers, those of capabilities and others.

A capability is installed with everything it brings along or not at all, and uninstalling takes
away all of it and nothing else.
-/

namespace Planwright

/-- An installed capability. -/
structure InstalledCapability where
  version : String
  triggers : List Trigger
  templates : Dict Recipe
  /-- the qualified names of its actions -/
  actions : List String
  /-- the names of the providers it brought along -/
  providers : List String

/-- The best capability for a query. -/
structure CapabilityMatch where
  name : String
  confidence : Float
  /-- how many of its triggers fire -/
  matchedTriggers : Nat
  deriving Repr, Inhabited

namespace CapabilityMatch

/-- The fields as they are declared. -/
def declared : List Field :=
  [.required "name" Shape.text,
    .required "confidence" Shape.double,
    .required "matchedTriggers" (Shape.natural 64)]

/-- Reads a match, all of it required. -/
def ofValue : Shape CapabilityMatch := fun v => do
  let fields ← Shape.record declared v
  let confidence ← fields.field? "confidence" Shape.double
  let matchedTriggers ← fields.field? "matchedTriggers" (Shape.natural 64)
  let name ← fields.field? "name" Shape.text
  let name ← require "name" name
  let confidence ← require "confidence" confidence
  let matchedTriggers ← require "matchedTriggers" matchedTriggers
  return ⟨name, confidence, matchedTriggers⟩

/-- Writes a match. -/
def toValue (m : CapabilityMatch) : Value :=
  .ofMembers [("name", .text m.name), ("confidence", .ofFloat m.confidence),
    ("matchedTriggers", .ofNat m.matchedTriggers)]

end CapabilityMatch

/-- How many of each resource the installed capabilities have. -/
structure ResourceCounts where
  triggers : Nat
  templates : Nat
  actions : Nat
  providers : Nat
  deriving DecidableEq, Repr, Inhabited

namespace ResourceCounts

/-- The counts of two sets of capabilities together. -/
def add (a b : ResourceCounts) : ResourceCounts :=
  ⟨a.triggers + b.triggers, a.templates + b.templates, a.actions + b.actions,
    a.providers + b.providers⟩

/-- Writes counts. -/
def toValue (c : ResourceCounts) : Value :=
  .ofMembers [("triggers", .ofNat c.triggers), ("templates", .ofNat c.templates),
    ("actions", .ofNat c.actions), ("providers", .ofNat c.providers)]

end ResourceCounts

namespace InstalledCapability

/-- How many triggers fire on a query. -/
def firing (c : InstalledCapability) (query : String) : Nat := c.triggers.countP (·.fires query)

/-- A name with blanks for low lines and hyphens. -/
def spaced (name : List Char) : List Char :=
  name.map fun c => if c == '_' || c == '-' then ' ' else c

/-- Whether a query names a recipe, as it is written or with blanks, in any case. -/
def namesRecipe (query : String) (name : String) : Bool :=
  let query := Text.lower query.toList
  let name := Text.lower name.toList
  Text.occursIn name query || Text.occursIn (spaced name) query

/-- How many recipes a query names. -/
def recipeHits (c : InstalledCapability) (query : String) : Nat :=
  c.templates.keys.countP (namesRecipe query)

/-- The confidence in a match: one half for the capability, one fifth for each trigger that fires
and one tenth for each recipe that is named, at most one. -/
def confidence (firing hits : Nat) : Float :=
  let sum : Float := 0.5 + 0.2 * Float.ofNat firing + 0.1 * Float.ofNat hits
  if 1.0 < sum then 1.0 else sum

/-- The match of a query, if any trigger fires. -/
def match? (c : InstalledCapability) (name query : String) : Option CapabilityMatch :=
  let firing := c.firing query
  if firing = 0 then none
  else some ⟨name, confidence firing (c.recipeHits query), firing⟩

/-- How many of each resource the capability has. -/
def counts (c : InstalledCapability) : ResourceCounts :=
  ⟨c.triggers.length, c.templates.length, c.actions.length, c.providers.length⟩

end InstalledCapability

/-- What is installed. -/
structure Catalog where
  capabilities : Dict InstalledCapability
  /-- the actions under their qualified names -/
  actions : Dict Action
  providers : Providers

namespace Catalog

/-- The catalog with nothing installed. -/
def empty (config : SelectorConfig) : Catalog := ⟨[], [], .empty config⟩

/-! ## Installing -/

/-- The name of an action of a capability. -/
def qualified (capability action : String) : String := capability ++ "." ++ action

/-- The bound actions of a bundle under their qualified names. -/
def boundActions (c : Capability) : Dict Action :=
  c.actions.filterMap fun a => a.2.map fun run => (qualified c.name a.1, run)

/-- Installs a bundle, all of it or nothing. -/
def install (k : Catalog) (c : Capability) : Except Failure Catalog := do
  let triggers ← c.validate
  if k.capabilities.contains c.name then
    throw (.invalid ("capability '" ++ c.name ++ "' is already installed"))
  let actions := boundActions c
  match actions.keys.find? k.actions.contains with
  | some taken => throw (.invalid ("custom action '" ++ taken ++ "' is already registered"))
  | none => pure ()
  let providers ← k.providers.registerAll c.name c.providers
  return {
    capabilities := k.capabilities ++
      [(c.name, ⟨c.version, triggers, c.templates, actions.keys, c.providers.keys⟩)]
    actions := k.actions ++ actions
    providers := providers }

/-- Takes a capability and everything it brought along away. -/
def uninstall (k : Catalog) (name : String) : Except Failure Catalog :=
  match k.capabilities.get? name with
  | none => .error (.invalid ("capability '" ++ name ++ "' is not installed"))
  | some c =>
    .ok {
      capabilities := k.capabilities.erase name
      actions := k.actions.filter fun a => !c.actions.contains a.1
      providers := k.providers.removeOwnedBy name }

/-! ## Asking -/

/-- Of a match chosen so far and another one, the other one only if it is more confident. -/
def better (best : Option CapabilityMatch) (m : CapabilityMatch) : Option CapabilityMatch :=
  match best with
  | none => some m
  | some b => if b.confidence < m.confidence then some m else some b

/-- The capability that matches a query best; of several, the one installed first. -/
def findMatching (k : Catalog) (query : String) : Option CapabilityMatch :=
  (k.capabilities.filterMap fun c => c.2.match? c.1 query).foldl better none

/-- A recipe of a capability. -/
def template? (k : Catalog) (capability name : String) : Option Recipe :=
  (k.capabilities.get? capability).bind (·.templates.get? name)

/-- The recipe that a capability uses for an action: the one of that name, or else its first one,
with its name. -/
def templateFor? (k : Catalog) (capability action : String) : Option (String × Recipe) :=
  (k.capabilities.get? capability).bind fun c =>
    match c.templates.get? action with
    | some r => some (action, r)
    | none => c.templates.head?

/-- An action by its qualified name. -/
def action? (k : Catalog) (name : String) : Option Action := k.actions.get? name

/-- Whether there is an action of a qualified name. -/
def hasAction (k : Catalog) (name : String) : Bool := k.actions.contains name

/-- Whether a capability is installed. -/
def isInstalled (k : Catalog) (name : String) : Bool := k.capabilities.contains name

/-- The names of the installed capabilities. -/
def names (k : Catalog) : List String := k.capabilities.keys

/-- How many of each resource the installed capabilities have. -/
def counts (k : Catalog) : ResourceCounts :=
  k.capabilities.foldl (fun sum c => sum.add c.2.counts) ⟨0, 0, 0, 0⟩

end Catalog

end Planwright
