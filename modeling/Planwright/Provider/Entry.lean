import Planwright.Provider.Request
import Planwright.Provider.Window
import Planwright.Timestamp

set_option autoImplicit false

/-!
# Provider entries

A registered provider: its manifest, who brought it along, and what became of the calls to it so
far.  From these a score is made, by which the best provider for a call is chosen.

Instants are milliseconds of one clock, which never runs backwards.
-/

namespace Planwright

/-- How providers are chosen. -/
structure SelectorConfig where
  /-- from this cost on, a provider gets no points for being cheap -/
  costCeiling : Float
  deriving Repr, Inhabited

namespace SelectorConfig

/-- What is chosen by if nothing else is said. -/
def standard : SelectorConfig := ⟨1.0⟩

/-- The fields as they are declared. -/
def declared : List Field :=
  [.optional "costCeiling" Shape.double]

/-- Reads how providers are chosen. -/
def ofValue : Shape SelectorConfig := fun v => do
  let fields ← Shape.record declared v
  let costCeiling ← fields.field? "costCeiling" Shape.double
  return ⟨costCeiling.getD standard.costCeiling⟩

/-- Writes how providers are chosen. -/
def toValue (c : SelectorConfig) : Value := .ofMembers [("costCeiling", .ofFloat c.costCeiling)]

end SelectorConfig

/-- What a call demands of a provider. -/
structure Requirements where
  maxCost : Option Float
  minReliability : Option Float
  deriving Repr, Inhabited

namespace Requirements

/-- No demands. -/
def none : Requirements := ⟨.none, .none⟩

/-- The fields as they are declared. -/
def declared : List Field :=
  [.optional "maxCost" (Shape.nullable Shape.double),
    .optional "minReliability" (Shape.nullable Shape.double)]

/-- Reads demands; both may be absent. -/
def ofValue : Shape Requirements := fun v => do
  let fields ← Shape.record declared v
  let maxCost ← fields.nullable? "maxCost" Shape.double
  let minReliability ← fields.nullable? "minReliability" Shape.double
  return ⟨maxCost, minReliability⟩

/-- Writes demands, absent ones left out. -/
def toValue (r : Requirements) : Value :=
  .ofMembers (Value.optional "maxCost" .ofFloat r.maxCost
    ++ Value.optional "minReliability" .ofFloat r.minReliability)

/-- Whether a provider meets the demands. -/
def admits (r : Requirements) (m : Manifest) : Bool :=
  r.maxCost.all (m.cost.toFloat ≤ ·) && r.minReliability.all (· ≤ m.reliability)

end Requirements

/-- The parts of a score. -/
structure Score where
  /-- up to forty points for trust -/
  reliability : Float
  /-- up to twenty points for being cheap -/
  cost : Float
  /-- up to twenty points for calls that went well -/
  successRate : Float
  /-- ten points if the budget has room -/
  availability : Float
  /-- up to ten points, one for each minute without a call -/
  recency : Float
  deriving Repr, Inhabited

namespace Score

/-- The whole score. -/
def total (s : Score) : Float :=
  s.reliability + s.cost + s.successRate + s.availability + s.recency

/-- The fields as they are declared. -/
def declared : List Field :=
  [.required "reliability" Shape.double,
    .required "cost" Shape.double,
    .required "successRate" Shape.double,
    .required "availability" Shape.double,
    .required "recency" Shape.double]

/-- Reads the parts of a score, all of them required. -/
def ofValue : Shape Score := fun v => do
  let fields ← Shape.record declared v
  let availability ← fields.field? "availability" Shape.double
  let cost ← fields.field? "cost" Shape.double
  let recency ← fields.field? "recency" Shape.double
  let reliability ← fields.field? "reliability" Shape.double
  let successRate ← fields.field? "successRate" Shape.double
  let reliability ← require "reliability" reliability
  let cost ← require "cost" cost
  let successRate ← require "successRate" successRate
  let availability ← require "availability" availability
  let recency ← require "recency" recency
  return ⟨reliability, cost, successRate, availability, recency⟩

/-- Writes the parts of a score. -/
def toValue (s : Score) : Value :=
  .ofMembers [("reliability", .ofFloat s.reliability), ("cost", .ofFloat s.cost),
    ("successRate", .ofFloat s.successRate), ("availability", .ofFloat s.availability),
    ("recency", .ofFloat s.recency)]

end Score

/-- A registered provider. -/
structure ProviderEntry where
  id : String
  manifest : Manifest
  /-- the capability that brought the provider along -/
  owner : Option String
  callCount : Nat
  errorCount : Nat
  lastUsed : Option Nat
  window : Option RequestWindow
  deriving Repr, Inhabited

namespace ProviderEntry

/-- An entry without calls. -/
def new (id : String) (manifest : Manifest) (owner : Option String) : ProviderEntry :=
  ⟨id, manifest, owner, 0, 0, none,
    manifest.rateLimit.map fun l => RequestWindow.new l.requests l.windowMs⟩

/-- Whether the budget has room at an instant; without a budget there always is. -/
def hasRoom (e : ProviderEntry) (now : Nat) : Bool := e.window.all (·.hasCapacity now)

/-- Takes one place of the budget. -/
def reserve (e : ProviderEntry) (now : Nat) : ProviderEntry :=
  { e with window := e.window.map (·.record now) }

/-- Asks for a place of the budget at an instant.  A refusal changes nothing. -/
def tryAdmit (e : ProviderEntry) (now : Nat) : Bool × ProviderEntry :=
  if e.hasRoom now then (true, e.reserve now) else (false, e)

/-- Records how a call that ended at an instant went.  Calls may be recorded in any order: the
last use is the latest end. -/
def recordCall (e : ProviderEntry) (ended : Nat) (success : Bool) : ProviderEntry :=
  { e with
    callCount := e.callCount + 1
    errorCount := if success then e.errorCount else e.errorCount + 1
    lastUsed := some (max ended (e.lastUsed.getD 0)) }

/-- The share of calls that went well; one half before the first call. -/
def successRate (e : ProviderEntry) : Float :=
  if e.callCount = 0 then 0.5
  else Float.ofNat (e.callCount - e.errorCount) / Float.ofNat e.callCount

/-- A span of milliseconds in seconds: whole seconds and the fraction are converted apart. -/
def seconds (ms : Nat) : Float :=
  Float.ofNat (ms / 1000) + Float.ofNat (ms % 1000 * 1000000) / 1000000000.0

/-- The points for being cheap. -/
def costScore (config : SelectorConfig) (cost : Float) : Float :=
  let ceiling := config.costCeiling
  if 0.0 < ceiling then 20.0 * (1.0 - (if ceiling < cost then ceiling else cost) / ceiling)
  else if cost == 0.0 then 20.0
  else 0.0

/-- The points for not having been called lately. -/
def recencyScore (e : ProviderEntry) (now : Nat) : Float :=
  match e.lastUsed with
  | none => 10.0
  | some last =>
    let minutes := seconds (now - last) / 60.0
    if minutes < 10.0 then minutes else 10.0

/-- The score of a provider at an instant. -/
def score (e : ProviderEntry) (config : SelectorConfig) (now : Nat) : Score :=
  let cost := e.manifest.cost.toFloat
  { reliability := e.manifest.reliability * 40.0
    cost := costScore config (if cost < 0.0 then 0.0 else cost)
    successRate := e.successRate * 20.0
    availability := if e.hasRoom now then 10.0 else 0.0
    recency := e.recencyScore now }

end ProviderEntry

/-- A view of a provider's counters at one instant. -/
structure ProviderSnapshot where
  id : String
  owner : Option String
  callCount : Nat
  errorCount : Nat
  successRate : Float
  lastUsedAt : Option Timestamp
  requestsInWindow : Nat
  score : Float
  deriving Repr, Inhabited

namespace ProviderSnapshot

/-- The fields as they are declared. -/
def declared : List Field :=
  [.required "id" Shape.text,
    .optional "owner" (Shape.nullable Shape.text),
    .required "callCount" (Shape.natural 64),
    .required "errorCount" (Shape.natural 64),
    .required "successRate" Shape.double,
    .optional "lastUsedAt" (Shape.nullable Timestamp.ofValue),
    .required "requestsInWindow" (Shape.natural 64),
    .required "score" Shape.double]

/-- Reads a view; owner and last use may be absent. -/
def ofValue : Shape ProviderSnapshot := fun v => do
  let fields ← Shape.record declared v
  let callCount ← fields.field? "callCount" (Shape.natural 64)
  let errorCount ← fields.field? "errorCount" (Shape.natural 64)
  let id ← fields.field? "id" Shape.text
  let lastUsedAt ← fields.nullable? "lastUsedAt" Timestamp.ofValue
  let owner ← fields.nullable? "owner" Shape.text
  let requestsInWindow ← fields.field? "requestsInWindow" (Shape.natural 64)
  let score ← fields.field? "score" Shape.double
  let successRate ← fields.field? "successRate" Shape.double
  let id ← require "id" id
  let callCount ← require "callCount" callCount
  let errorCount ← require "errorCount" errorCount
  let successRate ← require "successRate" successRate
  let requestsInWindow ← require "requestsInWindow" requestsInWindow
  let score ← require "score" score
  return ⟨id, owner, callCount, errorCount, successRate, lastUsedAt, requestsInWindow, score⟩

/-- Writes a view; what is absent is left out. -/
def toValue (s : ProviderSnapshot) : Value :=
  .ofMembers
    ([("id", .text s.id), ("callCount", .ofNat s.callCount), ("errorCount", .ofNat s.errorCount),
        ("successRate", .ofFloat s.successRate),
        ("requestsInWindow", .ofNat s.requestsInWindow), ("score", .ofFloat s.score)]
      ++ Value.optional "owner" .text s.owner
      ++ Value.optional "lastUsedAt" Timestamp.toValue s.lastUsedAt)

end ProviderSnapshot

namespace ProviderEntry

/-- The counters of a provider at an instant; `calendar` gives the date of an instant. -/
def snapshot (e : ProviderEntry) (config : SelectorConfig) (calendar : Nat → Timestamp)
    (now : Nat) : ProviderSnapshot :=
  ⟨e.id, e.owner, e.callCount, e.errorCount, e.successRate, e.lastUsed.map calendar,
    (e.window.map (·.inWindow now)).getD 0, (e.score config now).total⟩

end ProviderEntry

end Planwright
