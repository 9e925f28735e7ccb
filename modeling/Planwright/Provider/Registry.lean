import Planwright.Provider.Entry

set_option autoImplicit false

/-!
# The provider registry

Providers in the order of their registration.  Names are unique, a manifest with something wrong
in it is refused, and providers that come together are taken together or not at all.
-/

namespace Planwright

/-- Registered providers and how they are chosen. -/
structure Providers where
  entries : List ProviderEntry
  config : SelectorConfig
  deriving Repr, Inhabited

namespace Providers

/-- The registry without providers. -/
def empty (config : SelectorConfig) : Providers := ⟨[], config⟩

/-- The entry of a provider. -/
def find? (r : Providers) (id : String) : Option ProviderEntry := r.entries.find? (·.id == id)

/-- Whether a provider is registered. -/
def contains (r : Providers) (id : String) : Bool := r.entries.any (·.id == id)

/-- How many providers are registered. -/
def size (r : Providers) : Nat := r.entries.length

/-- The entry of a provider that must be registered. -/
def require (r : Providers) (id : String) : Except Failure ProviderEntry :=
  match r.find? id with
  | some e => .ok e
  | none => .error (.plain .providerUnavailable ("unknown provider '" ++ id ++ "'"))

/-- The failure of registering a name twice. -/
def taken (id : String) : Failure := .invalid ("provider '" ++ id ++ "' is already registered")

/-- Adds an entry at the end. -/
def add (r : Providers) (e : ProviderEntry) : Providers := { r with entries := r.entries ++ [e] }

/-- Registers one provider. -/
def register (r : Providers) (id : String) (m : Manifest) : Except Failure Providers :=
  match m.validate id with
  | .error f => .error f
  | .ok () => if r.contains id then .error (taken id) else .ok (r.add (.new id m none))

/-- Checks providers that come together: each manifest, and that no name is registered or comes
twice. -/
def checkAll (r : Providers) (before : List String) :
    List (String × Manifest) → Except Failure Unit
  | [] => .ok ()
  | (id, m) :: rest =>
    match m.validate id with
    | .error f => .error f
    | .ok () =>
      if r.contains id || before.contains id then .error (taken id)
      else checkAll r (id :: before) rest

/-- Registers providers that an owner brings along, all of them or none. -/
def registerAll (r : Providers) (owner : String) (batch : List (String × Manifest)) :
    Except Failure Providers :=
  match r.checkAll [] batch with
  | .error f => .error f
  | .ok () =>
    .ok { r with entries := r.entries ++ batch.map fun p => .new p.1 p.2 (some owner) }

/-- The providers without those of an owner. -/
def removeOwnedBy (r : Providers) (owner : String) : Providers :=
  { r with entries := r.entries.filter fun e => e.owner != some owner }

/-- Changes the entry of a provider. -/
def adjust (r : Providers) (id : String) (f : ProviderEntry → ProviderEntry) : Providers :=
  { r with entries := r.entries.map fun e => if e.id = id then f e else e }

/-- Whether a provider may serve a call. -/
def qualifies (category : String) (requirements : Requirements) (e : ProviderEntry) : Bool :=
  e.manifest.categories.contains category && requirements.admits e.manifest

/-- Of a provider chosen so far and another one, the other one only if its score is greater. -/
def better (config : SelectorConfig) (now : Nat) (best : Option (Float × ProviderEntry))
    (e : ProviderEntry) : Option (Float × ProviderEntry) :=
  let score := (e.score config now).total
  match best with
  | none => some (score, e)
  | some (top, chosen) => if top < score then some (score, e) else some (top, chosen)

/-- The provider of a category with the best score; of several, the one registered first. -/
def selectBest (r : Providers) (now : Nat) (category : String) (requirements : Requirements) :
    Except Failure ProviderEntry :=
  match (r.entries.filter (qualifies category requirements)).foldl (better r.config now) none with
  | some (_, e) => .ok e
  | none =>
    .error (.plain .providerUnavailable
      ("no provider in category '" ++ category ++ "' meets the requirements"))

/-- The score of a provider at an instant. -/
def score (r : Providers) (now : Nat) (id : String) : Option Score :=
  (r.find? id).map (·.score r.config now)

/-- The counters of all providers. -/
def snapshot (r : Providers) (calendar : Nat → Timestamp) (now : Nat) : List ProviderSnapshot :=
  r.entries.map (·.snapshot r.config calendar now)

end Providers

end Planwright
