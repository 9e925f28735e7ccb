import Planwright.Value.View
import Planwright.Failure
import Planwright.Elapsed

set_option autoImplicit false

/-!
# Responses

What comes back for a request: a status with a body, or a failure of the connection.  A status
outside the two hundreds is a failure whose kind follows from the status.
-/

namespace Planwright

/-- An answer to a request. -/
structure Response where
  status : Nat
  body : Value
  deriving Repr, Inhabited

namespace Response

/-- Whether the status is one of success. -/
def isSuccess (r : Response) : Bool := 200 ≤ r.status && r.status < 300

/-- The kind of failure that a status without success stands for. -/
def kindOfStatus (status : Nat) : FailureKind :=
  if status = 401 ∨ status = 403 then .authenticationFailure
  else if status = 429 then .rateLimited
  else if 500 ≤ status ∧ status < 600 then .providerUnavailable
  else .invalidParameters

/-- Refuses a status without success. -/
def classify (provider : String) (r : Response) : Except Failure Unit :=
  if r.isSuccess then .ok ()
  else
    .error (.plain (kindOfStatus r.status)
      (provider ++ " returned HTTP " ++ toString r.status ++ ": " ++ r.body.shown))

end Response

/-- A failure of the connection. -/
inductive ConnectionFault where
  /-- no answer within so many nanoseconds -/
  | timeout (nanos : Nat)
  | network (detail : String)
  /-- an answer that cannot be understood -/
  | invalidResponse (detail : String)
  deriving DecidableEq, Repr, Inhabited

namespace ConnectionFault

/-- The wording of a fault. -/
def message : ConnectionFault → String
  | .timeout nanos => "timed out after " ++ spanText nanos
  | .network detail => "network error: " ++ detail
  | .invalidResponse detail => "invalid response: " ++ detail

/-- The fault as a failure. -/
def failure (f : ConnectionFault) : Failure := .plain .apiFailure f.message

end ConnectionFault

end Planwright
