import Planwright.Execution.World
import Planwright.Template.Render

set_option autoImplicit false

/-!
# The surroundings of an execution

What an execution is given besides its recipe and the world, and what it leaves unchanged: the
network, the settings, and the instant at which the caller gives up, if there is one.
-/

namespace Planwright

/-- How executions are run. -/
structure InterpreterConfig where
  /-- how long a call may take if its provider does not say -/
  callTimeoutMs : Nat
  /-- what becomes of references that lead nowhere -/
  unresolved : UnresolvedPolicy
  /-- how many conditionals may enclose one another -/
  maxDepth : Nat
  deriving DecidableEq, Repr, Inhabited

namespace InterpreterConfig

/-- How executions are run if nothing else is said. -/
def standard : InterpreterConfig := ⟨10000, .passThrough, 16⟩

/-- The fields as they are declared. -/
def declared : List Field :=
  [.optional "callTimeoutMs" (Shape.natural 64),
    .optional "unresolved" (Shape.choice UnresolvedPolicy.names),
    .optional "maxDepth" (Shape.natural 64)]

/-- Reads how executions are run. -/
def ofValue : Shape InterpreterConfig := fun v => do
  let fields ← Shape.record declared v
  let callTimeoutMs ← fields.field? "callTimeoutMs" (Shape.natural 64)
  let maxDepth ← fields.field? "maxDepth" (Shape.natural 64)
  let unresolved ← fields.field? "unresolved" (Shape.choice UnresolvedPolicy.names)
  return ⟨callTimeoutMs.getD standard.callTimeoutMs, unresolved.getD standard.unresolved,
    maxDepth.getD standard.maxDepth⟩

/-- Writes how executions are run. -/
def toValue (c : InterpreterConfig) : Value :=
  .ofMembers [("callTimeoutMs", .ofNat c.callTimeoutMs), ("unresolved", .text c.unresolved.name),
    ("maxDepth", .ofNat c.maxDepth)]

end InterpreterConfig

/-- What an execution is given besides its recipe and the world. -/
structure Surroundings where
  network : Network
  config : InterpreterConfig
  /-- the instant at which the caller gives up -/
  cut : Option Nat

namespace Surroundings

/-- Whether the caller gives up before an instant. -/
def cutsBefore (s : Surroundings) (instant : Nat) : Bool := s.cut.any (· < instant)

/-- The world when the caller gives up. -/
def interrupt (s : Surroundings) (w : World) : World := w.at_ (s.cut.getD w.now)

end Surroundings

end Planwright
