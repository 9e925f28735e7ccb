import Planwright.Provider.Cost
import Planwright.Failure
import Planwright.Text.Blank

set_option autoImplicit false

/-!
# Provider manifests

What is known about a provider from the start: where it is, which calls it takes, how it wants
to be paid, trusted, greeted and spared.
-/

namespace Planwright

/-- At most so many calls within a window of time. -/
structure RateLimit where
  requests : Nat
  windowMs : Nat
  deriving DecidableEq, Repr, Inhabited

namespace RateLimit

/-- The fields as they are declared. -/
def declared : List Field :=
  [.required "requests" (Shape.natural 32),
    .required "windowMs" (Shape.natural 64)]

/-- Reads a limit. -/
def ofValue : Shape RateLimit := fun v => do
  let fields ← Shape.record declared v
  let requests ← fields.field? "requests" (Shape.natural 32)
  let windowMs ← fields.field? "windowMs" (Shape.natural 64)
  let requests ← require "requests" requests
  let windowMs ← require "windowMs" windowMs
  return ⟨requests, windowMs⟩

/-- Writes a limit. -/
def toValue (l : RateLimit) : Value :=
  .ofMembers [("requests", .ofNat l.requests), ("windowMs", .ofNat l.windowMs)]

end RateLimit

/-- How a request says who sends it. -/
inductive Auth where
  /-- a key, in a header or, if one is named, in a query parameter -/
  | apiKey (key : String) (header queryParam : Option String)
  | bearer (token : String)
  | basic (username password : String)
  deriving DecidableEq, Repr, Inhabited

namespace Auth

/-- The words for the schemes. -/
inductive Scheme where
  | apiKey
  | bearer
  | basic
  deriving DecidableEq, Repr, Inhabited

/-- The words for all schemes. -/
def schemes : List (String × Scheme) :=
  [("apiKey", .apiKey), ("bearer", .bearer), ("basic", .basic)]

/-- The fields of a scheme as they are declared, besides its `type`. -/
def Scheme.declared : Scheme → List Field
  | .apiKey =>
    [.required "key" Shape.text, .optional "header" (Shape.nullable Shape.text),
      .optional "queryParam" (Shape.nullable Shape.text)]
  | .bearer => [.required "token" Shape.text]
  | .basic => [.required "username" Shape.text, .required "password" Shape.text]

/-- The word for a scheme, and the members of its other fields.  In a list the word comes first. -/
def taggedMembers : Shape (Scheme × Dict Value)
  | .list [] => .error (.missing "type")
  | .list (tag :: values) => do
    let scheme ← Shape.word schemes tag
    return (scheme, ← Shape.listed scheme.declared values)
  | .object ms => do
    let scheme ← Dict.field? ms "type" (Shape.word schemes)
    return (← require "type" scheme, ms)
  | _ => .error .wrongType

/-- Reads a scheme, whose `type` decides which other fields count. -/
def ofValue : Shape Auth := fun v => do
  let (scheme, fields) ← taggedMembers v
  match scheme with
  | .apiKey =>
    let header ← fields.nullable? "header" Shape.text
    let key ← fields.field? "key" Shape.text
    let queryParam ← fields.nullable? "queryParam" Shape.text
    let key ← require "key" key
    return .apiKey key header queryParam
  | .bearer =>
    let token ← fields.field? "token" Shape.text
    return .bearer (← require "token" token)
  | .basic =>
    let password ← fields.field? "password" Shape.text
    let username ← fields.field? "username" Shape.text
    let username ← require "username" username
    let password ← require "password" password
    return .basic username password

/-- Writes a scheme. -/
def toValue : Auth → Value
  | .apiKey key header queryParam =>
    .ofMembers ([("type", .text "apiKey"), ("key", .text key)]
      ++ Value.optional "header" .text header ++ Value.optional "queryParam" .text queryParam)
  | .bearer token => .ofMembers [("type", .text "bearer"), ("token", .text token)]
  | .basic username password =>
    .ofMembers [("type", .text "basic"), ("username", .text username),
      ("password", .text password)]

end Auth

/-- What is known about a provider from the start. -/
structure Manifest where
  baseAddress : String
  /-- paths by the names of the calls; a path may hold parameters in braces -/
  endpoints : Dict String
  auth : Option Auth
  rateLimit : Option RateLimit
  /-- the cost of one call -/
  cost : Cost
  /-- how far the provider is trusted, from zero to one -/
  reliability : Float
  categories : List String
  /-- how long a call may take, if other than usual -/
  timeoutMs : Option Nat
  deriving Repr, Inhabited

namespace Manifest

/-- The fields as they are declared. -/
def declared : List Field :=
  [.required "baseAddress" Shape.text,
    .optional "endpoints" (Shape.dict Shape.text),
    .optional "auth" (Shape.nullable Auth.ofValue),
    .optional "rateLimit" (Shape.nullable RateLimit.ofValue),
    .optional "cost" Cost.ofValue,
    .optional "reliability" Shape.double,
    .optional "categories" (Shape.list Shape.text),
    .optional "timeoutMs" (Shape.nullable (Shape.natural 64))]

/-- Reads a manifest; only the address is required. -/
def ofValue : Shape Manifest := fun v => do
  let fields ← Shape.record declared v
  let auth ← fields.nullable? "auth" Auth.ofValue
  let baseAddress ← fields.field? "baseAddress" Shape.text
  let categories ← fields.field? "categories" (Shape.list Shape.text)
  let cost ← fields.field? "cost" Cost.ofValue
  let endpoints ← fields.field? "endpoints" (Shape.dict Shape.text)
  let rateLimit ← fields.nullable? "rateLimit" RateLimit.ofValue
  let reliability ← fields.field? "reliability" Shape.double
  let timeoutMs ← fields.nullable? "timeoutMs" (Shape.natural 64)
  let baseAddress ← require "baseAddress" baseAddress
  return ⟨baseAddress, endpoints.getD [], auth, rateLimit, cost.getD Cost.zero,
    reliability.getD 0.5, categories.getD [], timeoutMs⟩

/-- Writes a manifest; what is absent is left out. -/
def toValue (m : Manifest) : Value :=
  .ofMembers
    ([("baseAddress", .text m.baseAddress),
        ("endpoints", .ofMembers (m.endpoints.mapValues Value.text)),
        ("cost", .text m.cost.text), ("reliability", .ofFloat m.reliability)]
      ++ Value.optional "auth" Auth.toValue m.auth
      ++ Value.optional "rateLimit" RateLimit.toValue m.rateLimit
      ++ (if m.categories.isEmpty then []
          else [("categories", .list (m.categories.map Value.text))])
      ++ Value.optional "timeoutMs" Value.ofNat m.timeoutMs)

/-- What can be wrong with a manifest. -/
inductive Fault where
  | emptyId
  | badAddress
  | badReliability
  | negativeCost
  | emptyLimit
  deriving DecidableEq, Repr, Inhabited

namespace Fault

/-- The wording of a fault. -/
def message : Fault → String
  | .emptyId => "empty id"
  | .badAddress => "baseAddress must be an http(s) URL"
  | .badReliability => "reliability must be within [0, 1]"
  | .negativeCost => "cost must not be negative"
  | .emptyLimit => "rateLimit requests and windowMs must be positive"

/-- The fault of the manifest of a provider as a failure. -/
def failure (id : String) (f : Fault) : Failure :=
  .invalid ("provider '" ++ id ++ "': " ++ f.message)

end Fault

/-- Whether a double lies between zero and one. -/
def isShare (x : Float) : Bool := 0.0 ≤ x && x ≤ 1.0

/-- Whether the address is one of the web. -/
def isWebAddress (address : String) : Bool :=
  "http://".toList.isPrefixOf address.toList || "https://".toList.isPrefixOf address.toList

/-- The first thing that is wrong with a manifest. -/
def fault? (m : Manifest) (id : String) : Option Fault :=
  if (Text.trim id.toList).isEmpty then some .emptyId
  else if !isWebAddress m.baseAddress then some .badAddress
  else if !isShare m.reliability then some .badReliability
  else if m.cost.negative then some .negativeCost
  else match m.rateLimit with
    | some l => if l.requests = 0 ∨ l.windowMs = 0 then some .emptyLimit else none
    | none => none

/-- Refuses a manifest with something wrong in it. -/
def validate (m : Manifest) (id : String) : Except Failure Unit :=
  match m.fault? id with
  | some f => .error (f.failure id)
  | none => .ok ()

end Manifest

end Planwright
