import Planwright.Capability.Catalog
import Planwright.Provider.Response

set_option autoImplicit false

/-!
# The world of an execution

Time, the catalog with the counters of its providers, the requests sent and the actions invoked.
Time is counted in milliseconds and passes only while an answer is awaited.

The network is a function: what answers a request, and when, may depend on all requests sent
before.  An answer may also never come.  What an action answers may depend on all actions invoked
before.
-/

namespace Planwright

/-- What the network does with a request. -/
structure Reply where
  /-- after how many milliseconds the answer comes, if ever -/
  delayMs : Option Nat
  answer : Except ConnectionFault Response

/-- What answers a request, given the requests sent before. -/
abbrev Network : Type := List Request → Request → Reply

namespace Reply

/-- How long a caller waits who gives up after `timeout`. -/
def waiting (r : Reply) (timeout : Nat) : Nat :=
  match r.delayMs with
  | some d => min d timeout
  | none => timeout

/-- What that caller gets.  An answer that comes just in time counts. -/
def received (r : Reply) (timeout : Nat) : Except ConnectionFault Response :=
  match r.delayMs with
  | some d => if d ≤ timeout then r.answer else .error (.timeout (timeout * 1000000))
  | none => .error (.timeout (timeout * 1000000))

/-- The body of an answer with success. -/
def body (provider : String) : Except ConnectionFault Response → Except Failure Value
  | .error f => .error f.failure
  | .ok r => (r.classify provider).map fun _ => r.body

end Reply

/-- What surrounds an execution and is changed by it. -/
structure World where
  now : Nat
  catalog : Catalog
  /-- the requests sent so far -/
  sent : List Request
  /-- the actions invoked so far, with their parameters -/
  invoked : List (String × Value)

namespace World

/-- The registered providers. -/
def providers (w : World) : Providers := w.catalog.providers

/-- The world with changed providers. -/
def withProviders (w : World) (p : Providers) : World :=
  { w with catalog := { w.catalog with providers := p } }

/-- Changes the entry of a provider. -/
def adjust (w : World) (id : String) (f : ProviderEntry → ProviderEntry) : World :=
  w.withProviders (w.providers.adjust id f)

/-- Asks the budget of a provider for a place. -/
def tryAdmit (w : World) (id : String) : Bool × World :=
  match w.providers.find? id with
  | none => (true, w)
  | some e =>
    let (admitted, e) := e.tryAdmit w.now
    (admitted, w.adjust id fun _ => e)

/-- Adds a request to those sent. -/
def send (w : World) (r : Request) : World := { w with sent := w.sent ++ [r] }

/-- Adds an action to those invoked. -/
def invoke (w : World) (action : String) (params : Value) : World :=
  { w with invoked := w.invoked ++ [(action, params)] }

/-- The world at another instant. -/
def at_ (w : World) (now : Nat) : World := { w with now := now }

end World

/-- Why something that was begun did not end with a value. -/
inductive Stop where
  | failed (f : Failure)
  /-- the caller gave up meanwhile -/
  | interrupted
  deriving Repr, Inhabited

namespace Stop

/-- The failure that a stop is reported as. -/
def failure : Stop → Failure
  | .failed f => f
  | .interrupted => .cancelled

end Stop

/-- What became of something that was begun. -/
abbrev Ended (α : Type) : Type := Except Stop α

namespace Ended

/-- What became of something that cannot be interrupted. -/
def of {α : Type} : Except Failure α → Ended α
  | .ok a => .ok a
  | .error f => .error (.failed f)

end Ended

end Planwright
