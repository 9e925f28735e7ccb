import Planwright.Execution.Surroundings
import Planwright.Instruction.Basic
import Planwright.Context

set_option autoImplicit false

/-!
# Calls

A call is prepared against the context, its request is built, the budget of its provider is asked,
and only then is it sent.  From that moment it is a *flight*: when it will land and with what is
settled, and when it lands it is recorded with its provider.

A call that is refused before it is sent is recorded nowhere; one that is given up in flight has
taken its place of the budget and is not recorded as ended.
-/

namespace Planwright

/-- A call in flight. -/
structure Flight where
  provider : String
  landsAt : Nat
  answer : Except Failure Value

namespace World

/-- Sends a call, if its request can be built and the budget has room. -/
def launch (w : World) (network : Network) (e : ProviderEntry) (spec : CallSpec)
    (defaultTimeout : Nat) : Except Failure Flight × World :=
  let timeout := e.manifest.timeoutMs.getD defaultTimeout
  match Request.build e.id e.manifest spec timeout with
  | .error f => (.error f.failure, w)
  | .ok request =>
    match w.tryAdmit e.id with
    | (false, w) =>
      (.error (.plain .rateLimited (e.id ++ ": local request budget exhausted")), w)
    | (true, w) =>
      let reply := network w.sent request
      (.ok ⟨e.id, w.now + reply.waiting timeout, Reply.body e.id (reply.received timeout)⟩,
        w.send request)

/-- Records a call that has landed with its provider. -/
def land (w : World) (f : Flight) : World :=
  w.adjust f.provider fun e => e.recordCall f.landsAt f.answer.isOk

end World

namespace Surroundings

/-- Sends a call and awaits its answer. -/
def dispatch (s : Surroundings) (w : World) (e : ProviderEntry) (spec : CallSpec) :
    Ended Value × World :=
  match w.launch s.network e spec s.config.callTimeoutMs with
  | (.error f, w) => (.error (.failed f), w)
  | (.ok flight, w) =>
    if s.cutsBefore flight.landsAt then (.error .interrupted, s.interrupt w)
    else (.of flight.answer, (w.land flight).at_ flight.landsAt)

end Surroundings

/-! ## Preparing -/

/-- A call with its references resolved and its provider chosen. -/
structure PreparedCall where
  entry : ProviderEntry
  spec : CallSpec
  transform : Option ResponseTransform

namespace ResponseTransform

/-- Changes an answer. -/
def apply (t : ResponseTransform) (body : Value) : Except Failure Value :=
  let change (v : Value) : Except Failure Value :=
    match t.function.apply v t.places with
    | .ok v => .ok v
    | .error f => .error f.failure
  match t.field with
  | none => change body
  | some field =>
    match body with
    | .object members =>
      match Dict.get? members field with
      | some v => (change v).map fun v => .object (Dict.put field v members)
      | none => .error (.invalid ("response has no field '" ++ field ++ "'"))
    | _ => .error (.invalid ("response has no field '" ++ field ++ "'"))

end ResponseTransform

namespace PreparedCall

/-- The answer as the step sees it. -/
def finish (p : PreparedCall) (body : Value) : Except Failure Value :=
  match p.transform with
  | none => .ok body
  | some t => t.apply body

end PreparedCall

namespace ApiCall

/-- The parameters of a call as members; null means none. -/
def membersOf : Value → Except Failure (Dict Value)
  | .object members => .ok members
  | .null => .ok []
  | v => .error (.invalid ("call params must be an object, got " ++ v.written))

/-- The provider that a call is addressed to at an instant. -/
def entryOf (policy : UnresolvedPolicy) (ctx : Context) (w : World) :
    CallTarget → Except Failure ProviderEntry
  | .provider id => do w.providers.require (← ctx.render policy id)
  | .category name requirements => do
    w.providers.selectBest w.now (← ctx.render policy name) requirements

/-- Resolves a call against the context and chooses its provider. -/
def prepare (policy : UnresolvedPolicy) (ctx : Context) (w : World) (c : ApiCall) :
    Except Failure PreparedCall := do
  let entry ← entryOf policy ctx w c.target
  let params ← membersOf (← ctx.resolveValue policy c.params)
  let body ← match c.body with
    | none => pure none
    | some b => (ctx.resolveValue policy b).map some
  let endpoint ← ctx.render policy c.endpoint
  return ⟨entry, ⟨endpoint, params, c.method, body⟩, c.transform⟩

end ApiCall

namespace Surroundings

/-- Prepares a call, sends it and awaits its answer; tells also which provider was asked. -/
def callOne (s : Surroundings) (ctx : Context) (w : World) (c : ApiCall) :
    Ended (Value × String) × World :=
  match c.prepare s.config.unresolved ctx w with
  | .error f => (.error (.failed f), w)
  | .ok p =>
    match s.dispatch w p.entry p.spec with
    | (.error stop, w) => (.error stop, w)
    | (.ok body, w) => (.of ((p.finish body).map fun v => (v, p.entry.id)), w)

end Surroundings

end Planwright
