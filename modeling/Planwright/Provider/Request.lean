import Planwright.Provider.Manifest
import Planwright.Value.View
import Planwright.Text.Bytes
import Planwright.Text.Search

set_option autoImplicit false

/-!
# Requests

A call names an endpoint and gives parameters.  The request for it is built from the provider's
manifest: parameters named in braces go into the path, percent-encoded; the others, null ones
apart, become the query, in the order of their names; last comes what says who is asking.
-/

namespace Planwright

/-- The methods of requests. -/
inductive Method where
  | get
  | post
  | put
  | delete
  deriving DecidableEq, Repr, Inhabited

namespace Method

/-- The word for a method. -/
def name : Method → String
  | .get => "GET"
  | .post => "POST"
  | .put => "PUT"
  | .delete => "DELETE"

/-- All methods. -/
def all : List Method := [.get, .post, .put, .delete]

theorem mem_all (m : Method) : m ∈ all := by cases m <;> decide

/-- The method that a word names, in any mixture of case. -/
def ofName (word : String) : Except Failure Method :=
  let upper := String.ofList (word.toList.map Text.upperBasic)
  match all.find? (·.name == upper) with
  | some m => .ok m
  | none => .error (.invalid ("unsupported method '" ++ upper ++ "'"))

/-- Reads a method, in upper case only. -/
def ofValue : Shape Method := Shape.choice (all.map fun m => (m.name, m))

end Method

/-- A call with its parameters resolved. -/
structure CallSpec where
  endpoint : String
  params : Dict Value
  method : Method
  body : Option Value
  deriving Repr, Inhabited

namespace CallSpec

/-- The fields as they are declared. -/
def declared : List Field :=
  [.required "endpoint" Shape.text,
    .optional "params" Shape.members,
    .optional "method" Method.ofValue,
    .optional "body" (Shape.nullable Shape.any)]

/-- Reads a call; only the endpoint is required. -/
def ofValue : Shape CallSpec := fun v => do
  let fields ← Shape.record declared v
  let body ← fields.nullable? "body" Shape.any
  let endpoint ← fields.field? "endpoint" Shape.text
  let method ← fields.field? "method" Method.ofValue
  let params ← fields.field? "params" Shape.members
  let endpoint ← require "endpoint" endpoint
  return ⟨endpoint, params.getD [], method.getD .get, body⟩

/-- Writes a call. -/
def toValue (c : CallSpec) : Value :=
  .ofMembers
    ([("endpoint", .text c.endpoint), ("params", .object c.params),
        ("method", .text c.method.name)] ++ Value.optional "body" id c.body)

end CallSpec

/-- A request ready to be sent. -/
structure Request where
  provider : String
  method : Method
  /-- address and filled path, without the query -/
  url : String
  query : List (String × String)
  headers : List (String × String)
  body : Option Value
  timeoutMs : Nat
  deriving Repr, Inhabited

namespace Request

/-- What keeps a request from being built. -/
inductive Fault where
  | noEndpoint (provider endpoint : String)
  | missingParameter (name : String)
  deriving DecidableEq, Repr, Inhabited

namespace Fault

/-- The fault as a failure. -/
def failure : Fault → Failure
  | .noEndpoint provider endpoint =>
    .invalid ("provider '" ++ provider ++ "' has no endpoint '" ++ endpoint ++ "'")
  | .missingParameter name => .invalid ("missing path parameter '" ++ name ++ "'")

end Fault

/-- A piece of an endpoint's path: plain text, or a parameter in braces. -/
inductive PathPart where
  | plain (text : List Char)
  | param (name : String)
  deriving DecidableEq, Repr, Inhabited

/-- Takes a path apart.  From the first brace that is not closed on, all is plain text. -/
def pathParts (s : List Char) : List PathPart :=
  match h : Text.cutAt '{' s with
  | none => [.plain s]
  | some (before, rest) =>
    match h' : Text.cutAt '}' rest with
    | none => [.plain s]
    | some (name, after) =>
      have : after.length < s.length :=
        Nat.lt_trans (Text.length_lt_of_cutAt h') (Text.length_lt_of_cutAt h)
      .plain before :: .param (String.ofList name) :: pathParts after
termination_by s.length

/-- Fills a path from parameters.  A parameter is used up by its first place in the path; the
answer holds those that are left. -/
def fillParts (params : Dict Value) : List PathPart → Except Fault (List Char × Dict Value)
  | [] => .ok ([], params)
  | .plain text :: rest => do
    let (filled, left) ← fillParts params rest
    return (text ++ filled, left)
  | .param name :: rest =>
    match params.get? name with
    | none => .error (.missingParameter name)
    | some v => do
      let (filled, left) ← fillParts (params.erase name) rest
      return (Text.percentEncode v.shown.toList ++ filled, left)

/-- Joins an address and a path with exactly one slash between them; an empty path adds none. -/
def joinPath (base path : List Char) : List Char :=
  match base.getLast? == some '/', path with
  | true, '/' :: rest => base ++ rest
  | true, _ => base ++ path
  | false, [] => base
  | false, '/' :: rest => base ++ '/' :: rest
  | false, path => base ++ '/' :: path

/-- The parameters that a query shows. -/
def queryOf (params : Dict Value) : List (String × String) :=
  params.filterMap fun
    | (_, .null) => none
    | (k, v) => some (k, v.shown)

/-- The header of a key, if no other is named. -/
def defaultKeyHeader : String := "X-API-Key"

/-- The query parameters that say who is asking. -/
def authQuery : Option Auth → List (String × String)
  | some (.apiKey key _ (some param)) => [(param, key)]
  | _ => []

/-- The headers that say who is asking. -/
def authHeaders : Option Auth → List (String × String)
  | some (.apiKey key header none) => [(header.getD defaultKeyHeader, key)]
  | some (.bearer token) => [("Authorization", "Bearer " ++ token)]
  | some (.basic username password) =>
    [("Authorization",
      "Basic " ++ String.ofList (Text.base64 (Text.bytes (username ++ ":" ++ password).toList)))]
  | _ => []

/-- Builds the request of a call to a provider. -/
def build (provider : String) (manifest : Manifest) (spec : CallSpec) (timeoutMs : Nat) :
    Except Fault Request :=
  match manifest.endpoints.get? spec.endpoint with
  | none => .error (.noEndpoint provider spec.endpoint)
  | some path =>
    match fillParts spec.params (pathParts path.toList) with
    | .error f => .error f
    | .ok (path, left) =>
      .ok
        { provider := provider
          method := spec.method
          url := String.ofList (joinPath manifest.baseAddress.toList path)
          query := queryOf left ++ authQuery manifest.auth
          headers := authHeaders manifest.auth
          body := spec.body
          timeoutMs := timeoutMs }

/-- A query parameter as text. -/
def queryText (p : String × String) : List Char :=
  Text.percentEncode p.1.toList ++ '=' :: Text.percentEncode p.2.toList

/-- The address with the query. -/
def fullUrl (r : Request) : String :=
  if r.query.isEmpty then r.url
  else r.url ++ String.ofList ('?' :: ['&'].intercalate (r.query.map queryText))

/-- The header of a name, in any mixture of case. -/
def header? (r : Request) (name : String) : Option String :=
  (r.headers.find? fun h => Text.equalIgnoringBasicCase h.1.toList name.toList).map Prod.snd

end Request

end Planwright
