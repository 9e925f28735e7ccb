import Planwright.Execution.Run
import Planwright.Outcome
import Planwright.Planning.Synthesis

set_option autoImplicit false

/-!
# The engine

From a query and its intent to an outcome: a recipe is planned, run if it is confident enough, and
its result or failure is handed back.  A recipe that is not run, and an escalation, come with the
hint that the request should be answered in another way.
-/

namespace Planwright

/-- The settings of an engine. -/
structure EngineConfig where
  interpreter : InterpreterConfig
  planner : PlannerConfig
  selector : SelectorConfig
  deriving Repr, Inhabited

namespace EngineConfig

/-- The settings if nothing else is said. -/
def standard : EngineConfig := ⟨.standard, .standard, .standard⟩

/-- The fields as they are declared. -/
def declared : List Field :=
  [.optional "interpreter" InterpreterConfig.ofValue,
    .optional "synthesizer" PlannerConfig.ofValue,
    .optional "selector" SelectorConfig.ofValue]

/-- Reads settings; whatever is absent is standard. -/
def ofValue : Shape EngineConfig := fun v => do
  let fields ← Shape.record declared v
  let interpreter ← fields.field? "interpreter" InterpreterConfig.ofValue
  let selector ← fields.field? "selector" SelectorConfig.ofValue
  let planner ← fields.field? "synthesizer" PlannerConfig.ofValue
  return ⟨interpreter.getD .standard, planner.getD .standard, selector.getD .standard⟩

/-- Writes settings. -/
def toValue (c : EngineConfig) : Value :=
  .ofMembers [("interpreter", c.interpreter.toValue), ("synthesizer", c.planner.toValue),
    ("selector", c.selector.toValue)]

end EngineConfig

/-- An engine and the world it works in. -/
structure Engine where
  config : EngineConfig
  plans : PlanTable
  world : World

namespace Engine

/-- An engine with nothing installed. -/
def new (config : EngineConfig) (plans : PlanTable) : Engine :=
  ⟨config, plans, ⟨0, .empty config.selector, [], []⟩⟩

/-- What an execution is given.  The caller gives up after so many milliseconds, if at all. -/
def surroundings (e : Engine) (network : Network) (cancelAfter : Option Nat) : Surroundings :=
  ⟨network, e.config.interpreter, cancelAfter.map (e.world.now + ·)⟩

/-- The recipe that a query and its intent lead to. -/
def synthesize (e : Engine) (query : String) (i : Intent) : Synthesis :=
  Synthesis.synthesize e.world.catalog e.plans (e.world.catalog.findMatching query) i

/-- Executes a recipe. -/
def execute (e : Engine) (network : Network) (cancelAfter : Option Nat) (r : Recipe) :
    Execution × Engine :=
  let (execution, world) := (e.surroundings network cancelAfter).execute e.world r
  (execution, { e with world := world })

/-- The failure of a recipe that is not confident enough to be run. -/
def belowThreshold (e : Engine) (r : Recipe) : Failure :=
  .plain .ambiguousIntent ("recipe confidence " ++ Double.plainText r.confidence
    ++ " is below the execution threshold " ++ Double.plainText e.config.planner.threshold)

/-- The outcome of an execution under its name. -/
def outcomeOf (source : PlanSource) (id : String) (x : Execution) : Outcome :=
  let outcome := match x.result with
    | .ok data => Outcome.ofResult data source.text
    | .error f => Outcome.ofFailure f source.text
  let outcome := outcome.withExecution id (some x.elapsed)
  if source = .escalation then outcome.escalating else outcome

/-- Answers one request; `id` names the execution, if there is one. -/
def handle (e : Engine) (network : Network) (cancelAfter : Option Nat) (id : String)
    (query : String) (i : Intent) : Outcome × Engine :=
  let plan := e.synthesize query i
  if e.config.planner.admits plan.recipe then
    let (x, e) := e.execute network cancelAfter plan.recipe
    (outcomeOf plan.source id x, e)
  else ((Outcome.ofFailure (e.belowThreshold plan.recipe) plan.source.text).escalating, e)

end Engine

end Planwright
