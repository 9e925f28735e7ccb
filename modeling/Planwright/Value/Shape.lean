import Planwright.Value.Text

set_option autoImplicit false

/-!
# The shape of a value

Plans, manifests and settings arrive as values and are read by *shapes*: functions that take a
value to a domain type or to the reason why it has no such shape.

Records are read with one discipline.  The fields that are present are checked in the order of
their names, each with everything inside it; the first that is wrong decides the answer.  Only
then is a required field that is absent reported, in the order of the record's declaration.
Fields that the record does not know are ignored.

A record may also be given as a list, which holds the values of its fields in the order of their
declaration (`Shape.record`).  Then they are checked in this order.
-/

namespace Planwright

/-- Why a value does not have the wanted shape. -/
inductive ShapeError where
  /-- a required field is absent -/
  | missing (field : String)
  /-- a field is given under two spellings -/
  | duplicate (field : String)
  /-- a value of another type -/
  | wrongType
  /-- a list that ends too early, before the value at this index, or holds too many values, namely
  so many -/
  | wrongLength (length : Nat)
  /-- an integer outside the range of its type -/
  | outOfRange
  /-- a word that names none of the alternatives -/
  | unknownVariant (word : String)
  /-- a value that fits none of several alternatives -/
  | noVariant
  /-- a text that is no cost -/
  | badCost (text : String)
  /-- a value that can be no cost -/
  | noCost (value : Value)
  deriving Repr, Inhabited

namespace ShapeError

/-- The wording of the reason. -/
def message : ShapeError → String
  | .missing field => "missing field `" ++ field ++ "`"
  | .duplicate field => "duplicate field `" ++ field ++ "`"
  | .wrongType => "invalid type"
  | .wrongLength length => "invalid length " ++ toString length
  | .outOfRange => "invalid value"
  | .unknownVariant word => "unknown variant `" ++ word ++ "`"
  | .noVariant => "no variant matched"
  | .badCost text => "invalid cost '" ++ text ++ "'"
  | .noCost value => "invalid cost: " ++ value.written

end ShapeError

/-- Reads a value as something of type `α`. -/
abbrev Shape (α : Type) : Type := Value → Except ShapeError α

namespace Shape

variable {α : Type}

/-- Any value. -/
def any : Shape Value := .ok

/-- A text. -/
def text : Shape String
  | .text s => .ok s
  | _ => .error .wrongType

/-- A boolean. -/
def bool : Shape Bool
  | .bool b => .ok b
  | _ => .error .wrongType

/-- A double; integers are taken too. -/
def double : Shape Float
  | .number n => .ok n.toFloat
  | _ => .error .wrongType

/-- A natural number below `2 ^ bits`. -/
def natural (bits : Nat) : Shape Nat
  | .number (.integer n) =>
    if 0 ≤ n ∧ n < ((1 <<< bits : Nat) : Int) then .ok n.toNat else .error .outOfRange
  | _ => .error .wrongType

/-- A list whose items all have a shape. -/
def list (item : Shape α) : Shape (List α)
  | .list items => items.mapM item
  | _ => .error .wrongType

/-- The members of an object. -/
def members : Shape (Dict Value)
  | .object ms => .ok ms
  | _ => .error .wrongType

/-- An object whose members all have a shape. -/
def dict (entry : Shape α) : Shape (Dict α)
  | .object ms => ms.mapM fun m => (entry m.2).map fun v => (m.1, v)
  | _ => .error .wrongType

/-- Null, or a value of a shape. -/
def nullable (inner : Shape α) : Shape (Option α)
  | .null => .ok none
  | v => (inner v).map some

/-- A word that stands for one of several alternatives. -/
def word (alternatives : List (String × α)) : Shape α
  | .text s =>
    match alternatives.find? (·.1 == s) with
    | some (_, a) => .ok a
    | none => .error (.unknownVariant s)
  | _ => .error .wrongType

/-- One of several alternatives: its word alone, or an object whose only member has the word for its
name and holds null. -/
def choice (alternatives : List (String × α)) : Shape α
  | .object [(name, content)] => do
    let a ← word alternatives (.text name)
    match content with
    | .null => .ok a
    | _ => .error .wrongType
  | .object _ => .error .outOfRange
  | v => word alternatives v

end Shape

/-! ## Records -/

/-- A field of a record, as it is declared. -/
structure Field where
  name : String
  /-- whether a list that is given for the record must reach to this field -/
  needed : Bool
  /-- why a value is none for this field -/
  check : Shape Unit

namespace Field

variable {α : Type}

/-- A field that a list must reach to. -/
def required (name : String) (shape : Shape α) : Field :=
  ⟨name, true, fun v => (shape v).map fun _ => ()⟩

/-- A field that a list may end before. -/
def optional (name : String) (shape : Shape α) : Field :=
  ⟨name, false, fun v => (shape v).map fun _ => ()⟩

/-- The values of fields under their names.  There are `count` values in all, and `index` fields
stand before these. -/
def named (count : Nat) : Nat → List Field → List Value → Except ShapeError (Dict Value)
  | _, [], [] => .ok []
  | _, [], _ :: _ => .error (.wrongLength count)
  | index, f :: fs, [] =>
    if f.needed then .error (.wrongLength index) else named count (index + 1) fs []
  | index, f :: fs, v :: values => do
    f.check v
    return (f.name, v) :: (← named count (index + 1) fs values)

end Field

namespace Shape

/-- The values of the fields of a record given as a list. -/
def listed (fields : List Field) (values : List Value) : Except ShapeError (Dict Value) :=
  Field.named values.length 0 fields values

/-- The members of a record, which may also be given as a list. -/
def record (fields : List Field) : Shape (Dict Value)
  | .object ms => .ok ms
  | .list values => listed fields values
  | _ => .error .wrongType

@[simp] theorem record_object (fields : List Field) (ms : Dict Value) :
    record fields (.object ms) = .ok ms := rfl

@[simp] theorem record_list (fields : List Field) (values : List Value) :
    record fields (.list values) = listed fields values := rfl

end Shape

namespace Dict

variable {α : Type}

/-- Reads a field that may be absent. -/
def field? (fields : Dict Value) (name : String) (shape : Shape α) :
    Except ShapeError (Option α) :=
  match fields.get? name with
  | none => .ok none
  | some v => (shape v).map some

/-- Reads a field that may be absent or null, which mean the same. -/
def nullable? (fields : Dict Value) (name : String) (shape : Shape α) :
    Except ShapeError (Option α) := do
  return (← fields.field? name (Shape.nullable shape)).join

end Dict

/-- The value of a field that must be present. -/
def require {α : Type} (name : String) : Option α → Except ShapeError α
  | some a => .ok a
  | none => .error (.missing name)

namespace Value

/-- An optional member of an object being written: nothing if absent. -/
def optional {α : Type} (name : String) (write : α → Value) : Option α → List (String × Value)
  | none => []
  | some a => [(name, write a)]

end Value

end Planwright
