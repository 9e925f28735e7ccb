import Planwright.Template.Render

set_option autoImplicit false

/-!
# Execution contexts

Each execution has a context of its own, a dictionary from keys to values.  Steps write to it by
assigning their results and read it through references: the first word of a path names a key,
the rest leads into the value under it.
-/

namespace Planwright

/-- The values assigned so far in one execution. -/
structure Context where
  values : Dict Value
  deriving Repr, Inhabited

namespace Context

/-- The context in which nothing is assigned. -/
def empty : Context := ⟨[]⟩

/-- Stores a value under a key. -/
def assign (c : Context) (key : String) (v : Value) : Context := ⟨c.values.put key v⟩

/-- The value under a key. -/
def get? (c : Context) (key : String) : Option Value := c.values.get? key

/-- The value at a path. -/
def resolve (c : Context) (path : String) : Option Value :=
  match Text.piecesOf '.' path with
  | [] => none
  | key :: rest => (c.get? key).bind (·.lookup rest)

/-- The whole context as an object. -/
def toValue (c : Context) : Value := .object c.values

/-- The final text of a template. -/
def render (c : Context) (policy : UnresolvedPolicy) (text : String) : Except Failure String :=
  (Template.render c.resolve policy (Template.parse text)).map String.ofList

/-- A text as a parameter: the referenced value itself if the text is exactly one reference that
resolves, and the rendered text otherwise. -/
def resolveText (c : Context) (policy : UnresolvedPolicy) (s : String) : Except Failure Value :=
  match (Template.parse s).single?.bind c.resolve with
  | some v => .ok v
  | none => (c.render policy s).map .text

mutual

/-- Resolves every text inside a value.  Names of members are kept as they are. -/
def resolveValue (c : Context) (policy : UnresolvedPolicy) : Value → Except Failure Value
  | .text s => c.resolveText policy s
  | .list items => (resolveItems c policy items).map .list
  | .object members => (resolveMembers c policy members).map .object
  | v => .ok v

/-- Resolves the items of a list; the first that fails decides. -/
def resolveItems (c : Context) (policy : UnresolvedPolicy) :
    List Value → Except Failure (List Value)
  | [] => .ok []
  | v :: rest => do
    let v ← resolveValue c policy v
    let rest ← resolveItems c policy rest
    return v :: rest

/-- Resolves the members of an object; the first that fails decides. -/
def resolveMembers (c : Context) (policy : UnresolvedPolicy) :
    List (String × Value) → Except Failure (List (String × Value))
  | [] => .ok []
  | (k, v) :: rest => do
    let v ← resolveValue c policy v
    let rest ← resolveMembers c policy rest
    return (k, v) :: rest

end

@[simp] theorem get?_assign_self (c : Context) (key : String) (v : Value) :
    (c.assign key v).get? key = some v := Dict.get?_put_self key v c.values

theorem get?_assign_of_ne (c : Context) {key other : String} (h : other ≠ key) (v : Value) :
    (c.assign key v).get? other = c.get? other := Dict.get?_put_of_ne h v c.values

end Context

end Planwright
