import Planwright.Execution.World

set_option autoImplicit false

/-!
# Scripted networks

A network that follows a list of routes: the first route whose key is the address of a request, with
or without its query, or the name of its provider, says what answers and when.
-/

namespace Planwright

/-- An answer for the requests that a key stands for. -/
structure Route where
  key : String
  delayMs : Nat
  answer : Except ConnectionFault Response

namespace Route

/-- Whether the route answers a request. -/
def answers (r : Route) (request : Request) : Bool :=
  r.key == request.url || r.key == request.fullUrl || r.key == request.provider

/-- The network that follows routes; no route is a failure of the network, at once. -/
def network (routes : List Route) : Network := fun _ request =>
  match routes.find? (·.answers request) with
  | some r => ⟨some r.delayMs, r.answer⟩
  | none => ⟨some 0, .error (.network ("no stub route for " ++ request.fullUrl))⟩

end Route

end Planwright
