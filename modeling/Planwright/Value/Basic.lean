import Planwright.Dict

set_option autoImplicit false

/-!
# Dynamic values

Requests, responses, parameters and results are values of one dynamic type: null, booleans,
numbers, text, lists and objects.  Integers and doubles stay apart, since their texts differ.
The members of an object are sorted by name.
-/

namespace Planwright

/-- A number: an integer, or a finite double. -/
inductive Number where
  | integer (n : Int)
  | real (x : Float)
  deriving Repr, Inhabited

/-- A dynamic value. -/
inductive Value where
  | null
  | bool (b : Bool)
  | number (n : Number)
  | text (s : String)
  | list (items : List Value)
  | object (members : List (String × Value))
  deriving Repr, Inhabited

namespace Number

/-- The double nearest to the number. -/
def toFloat : Number → Float
  | .integer n => Float.ofInt n
  | .real x => x

end Number

namespace Value

/-- An integer as a value. -/
def ofInt (n : Int) : Value := .number (.integer n)

/-- A natural number as a value. -/
def ofNat (n : Nat) : Value := .number (.integer n)

/-- A double as a value; one that is not finite has no number and becomes null. -/
def ofFloat (x : Float) : Value := if x.isFinite then .number (.real x) else .null

/-- An object with the given members, in any order. -/
def ofMembers (members : List (String × Value)) : Value := .object (Dict.ofEntries members)

/-- The text of a text value. -/
def text? : Value → Option String
  | .text s => some s
  | _ => none

/-- The member of an object, if the value is an object that has it. -/
def member? (v : Value) (name : String) : Option Value :=
  match v with
  | .object members => Dict.get? members name
  | _ => none

end Value

end Planwright
