import Planwright.Capability.Catalog
import Planwright.Planning.Instantiate
import Planwright.Planning.PlanTable

set_option autoImplicit false

/-!
# Planning

The plan for an intent comes from the capability that matches the query, or else from the table of
plans, or else it is an escalation: a recipe whose one step fails and hands the intent back.
-/

namespace Planwright

/-- Where a recipe came from. -/
inductive PlanSource where
  | table (domain action : String)
  | capability (name template : String)
  | escalation
  deriving DecidableEq, Repr, Inhabited

namespace PlanSource

/-- The source as it is shown. -/
def text : PlanSource → String
  | .table domain action => "builtin:" ++ domain ++ "/" ++ action
  | .capability name template => "capability:" ++ name ++ "/" ++ template
  | .escalation => "escalation"

end PlanSource

/-- Which recipes are run. -/
structure PlannerConfig where
  /-- recipes of less confidence are not run -/
  threshold : Float
  deriving Repr, Inhabited

namespace PlannerConfig

/-- Which recipes are run if nothing else is said. -/
def standard : PlannerConfig := ⟨0.7⟩

/-- The fields as they are declared. -/
def declared : List Field :=
  [.optional "executeThreshold" Shape.double]

/-- Reads which recipes are run. -/
def ofValue : Shape PlannerConfig := fun v => do
  let fields ← Shape.record declared v
  let threshold ← fields.field? "executeThreshold" Shape.double
  return ⟨threshold.getD standard.threshold⟩

/-- Writes which recipes are run. -/
def toValue (c : PlannerConfig) : Value :=
  .ofMembers [("executeThreshold", .ofFloat c.threshold)]

/-- Whether a recipe is run. -/
def admits (c : PlannerConfig) (r : Recipe) : Bool := r.meets c.threshold

end PlannerConfig

/-- A recipe and where it came from. -/
structure Synthesis where
  recipe : Recipe
  source : PlanSource
  deriving Repr, Inhabited

namespace Synthesis

/-- The recipe that hands an intent back. -/
def escalationRecipe (i : Intent) : Recipe :=
  let text := "no recipe template for " ++ Template.escapeString i.domain ++ "/"
    ++ Template.escapeString i.action
  ⟨1.0,
    [⟨"error", none, false,
      Dict.ofEntries [("message", .text text), ("escalate", .bool true), ("intent", i.toValue)]⟩],
    []⟩

/-- The values for an intent: those of the plan, and over them those of the intent. -/
def filledIn (p : Plan) (i : Intent) : Dict Value :=
  i.entities.flat.foldl (fun d e => d.put e.1 e.2) p.defaults

/-- The recipe of the capability that matches. -/
def ofCapability? (k : Catalog) (matched : Option CapabilityMatch) (i : Intent) :
    Option Synthesis := do
  let m ← matched
  let (name, template) ← k.templateFor? m.name i.action
  return ⟨template.instantiate i.entities.flat, .capability m.name name⟩

theorem source_of_ofCapability? {k : Catalog} {matched : Option CapabilityMatch} {i : Intent}
    {plan : Synthesis} (h : ofCapability? k matched i = some plan) :
    ∃ name template, plan.source = .capability name template := by
  simp only [ofCapability?, Option.bind_eq_bind, Option.bind_eq_some_iff] at h
  obtain ⟨m, -, found, -, hplan⟩ := h
  obtain rfl := Option.some.inj hplan
  exact ⟨_, _, rfl⟩

/-- The recipe of the table of plans. -/
def ofTable? (t : PlanTable) (i : Intent) : Option Synthesis :=
  (t.get? i.domain i.action).map fun p =>
    ⟨p.template.instantiate (filledIn p i), .table i.domain i.action⟩

/-- The recipe for an intent. -/
def synthesize (k : Catalog) (t : PlanTable) (matched : Option CapabilityMatch) (i : Intent) :
    Synthesis :=
  ((ofCapability? k matched i).or (ofTable? t i)).getD ⟨escalationRecipe i, .escalation⟩

end Synthesis

end Planwright
