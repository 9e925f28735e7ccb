import Planwright.Intent

set_option autoImplicit false

/-!
# Failures

Everything that can go wrong while a plan is made or run is a `Failure` of one of eight kinds.
The kind fixes how severe the failure is and whether trying again may help; the disposition is
what a caller should do next.

Three failures stand apart: a request for clarification, an escalation and a cancellation are
never worth a retry, whatever their kind.  A failure of several calls together is worth a retry
as soon as one of them is, whatever their order.
-/

namespace Planwright

/-- The kinds of failure. -/
inductive FailureKind where
  | apiFailure
  | rateLimited
  | ambiguousIntent
  | invalidParameters
  | providerUnavailable
  | authenticationFailure
  | unknownOperation
  | unknown
  deriving DecidableEq, Repr, Inhabited

/-- How severe a failure is. -/
inductive Severity where
  | low
  | medium
  | high
  deriving DecidableEq, Repr, Inhabited

/-- What a caller should do next. -/
inductive Disposition where
  | needsClarification
  | retryable
  | fatal
  deriving DecidableEq, Repr, Inhabited

namespace FailureKind

/-- The word for the kind. -/
def name : FailureKind → String
  | .apiFailure => "ApiFailure"
  | .rateLimited => "RateLimited"
  | .ambiguousIntent => "AmbiguousIntent"
  | .invalidParameters => "InvalidParameters"
  | .providerUnavailable => "ProviderUnavailable"
  | .authenticationFailure => "AuthenticationFailure"
  | .unknownOperation => "UnknownOperation"
  | .unknown => "Unknown"

/-- All kinds. -/
def all : List FailureKind :=
  [.apiFailure, .rateLimited, .ambiguousIntent, .invalidParameters, .providerUnavailable,
    .authenticationFailure, .unknownOperation, .unknown]

theorem mem_all (k : FailureKind) : k ∈ all := by cases k <;> decide

/-- The kind that a word stands for. -/
def ofName? (word : String) : Option FailureKind := all.find? (·.name == word)

/-- How severe failures of this kind are. -/
def severity : FailureKind → Severity
  | .rateLimited | .ambiguousIntent => .low
  | .apiFailure | .invalidParameters | .unknown => .medium
  | .providerUnavailable | .authenticationFailure | .unknownOperation => .high

/-- Whether the same call may succeed later. -/
def isRetryable : FailureKind → Bool
  | .apiFailure | .rateLimited | .providerUnavailable => true
  | _ => false

/-- What the message of a failure of this kind begins with. -/
def opening : FailureKind → String
  | .apiFailure => "api call failed: "
  | .rateLimited => "rate limited: "
  | .ambiguousIntent => "ambiguous intent: "
  | .invalidParameters => "invalid parameters: "
  | .providerUnavailable => "provider unavailable: "
  | .authenticationFailure => "authentication failed: "
  | .unknownOperation => "unknown operation: "
  | .unknown => ""

end FailureKind

/-- What went wrong. -/
inductive Failure where
  /-- a failure of a kind, with what is known about it -/
  | plain (kind : FailureKind) (detail : String)
  /-- the plan asks the user for more -/
  | clarification (detail : String)
  /-- no plan can answer the request; another way of answering should be taken -/
  | escalation (detail : String) (intent : Option Intent)
  /-- every one of several calls failed, in their order -/
  | allFailed (failures : List Failure)
  /-- the caller gave up -/
  | cancelled
  deriving Repr, Inhabited

namespace Failure

/-- Parameters are missing or wrong. -/
abbrev invalid (detail : String) : Failure := .plain .invalidParameters detail

/-- A name outside the closed set of operations. -/
abbrev unknownOperation (detail : String) : Failure := .plain .unknownOperation detail

mutual

/-- The wording of a failure. -/
def message : Failure → String
  | .plain kind detail => kind.opening ++ detail
  | .clarification detail => "needs clarification: " ++ detail
  | .escalation detail _ => "escalation required: " ++ detail
  | .allFailed failures =>
    "all " ++ toString failures.length ++ " calls failed: " ++ messages 0 failures
  | .cancelled => "execution cancelled"

/-- The wordings of several failures, numbered from `i`. -/
def messages (i : Nat) : List Failure → String
  | [] => ""
  | [f] => "[" ++ toString i ++ "] " ++ message f
  | f :: g :: rest => "[" ++ toString i ++ "] " ++ message f ++ "; " ++ messages (i + 1) (g :: rest)

end

mutual

/-- The kind of a failure.  Several calls together have the kind of the first one worth a retry,
or of the first one if there is none. -/
def kind : Failure → FailureKind
  | .plain kind _ => kind
  | .clarification _ => .ambiguousIntent
  | .escalation _ _ => .ambiguousIntent
  | .allFailed failures =>
    match firstRetryable? failures with
    | some k => k
    | none =>
      match failures with
      | [] => .apiFailure
      | f :: _ => kind f
  | .cancelled => .unknown

/-- The kind of the first failure worth a retry. -/
def firstRetryable? : List Failure → Option FailureKind
  | [] => none
  | f :: rest => if isRetryable f then some (kind f) else firstRetryable? rest

/-- Whether a retry may succeed. -/
def isRetryable : Failure → Bool
  | .plain kind _ => kind.isRetryable
  | .clarification _ => false
  | .escalation _ _ => false
  | .allFailed failures =>
    match firstRetryable? failures with
    | some k => k.isRetryable
    | none =>
      match failures with
      | [] => true
      | f :: _ => (kind f).isRetryable
  | .cancelled => false

end

/-- How severe a failure is. -/
def severity (f : Failure) : Severity := f.kind.severity

/-- What the caller should do next. -/
def disposition (f : Failure) : Disposition :=
  if f.kind = .ambiguousIntent then .needsClarification
  else if f.isRetryable then .retryable
  else .fatal

/-- Whether another provider may be tried in place of the one that failed. -/
def allowsFallback (f : Failure) : Bool := f.disposition == .retryable

/-- Whether the request should be answered in another way. -/
def shouldEscalate : Failure → Bool
  | .escalation _ _ => true
  | .plain .unknownOperation _ => true
  | _ => false

end Failure

end Planwright
