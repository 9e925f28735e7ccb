import Planwright.Value.Text
import Planwright.Double.Reading
import Planwright.Text.Blank
import Planwright.Text.Case

set_option autoImplicit false

/-!
# Values seen as text, numbers and truth

How a value appears inside running text, which number it stands for, whether a condition takes
it for true, and what a path of names leads to inside it.
-/

namespace Planwright

namespace Number

/-- A number inside running text.  Whole doubles below `10 ^ 15` lose their sign of zero and
their point. -/
def shown : Number → String
  | .integer n => toString n
  | .real x =>
    match Double.integral? x with
    | some n => if n.natAbs < Nat.pow 10 15 then toString n else Double.plainText x
    | none => Double.plainText x

end Number

namespace Value

/-- A value inside running text: text without quotes, nothing for null, and structured text for
lists and objects. -/
def shown : Value → String
  | .null => ""
  | .bool true => "true"
  | .bool false => "false"
  | .number n => n.shown
  | .text s => s
  | v => v.written

/-- The number that a value stands for; a text stands for the number it denotes between
blanks. -/
def toFloat? : Value → Option Float
  | .number n => some n.toFloat
  | .text s => Double.readFloat (Text.trim s.toList)
  | _ => none

/-- Whether a condition takes the value for true. -/
def isTruthy : Value → Bool
  | .null => false
  | .bool b => b
  | .number n => n.toFloat != 0.0
  | .text s => !s.toList.isEmpty && !Text.equalIgnoringBasicCase s.toList "false".toList
  | .list items => !items.isEmpty
  | .object members => !members.isEmpty

/-- The position that a path segment names in a list: digits, perhaps after a plus sign, of a
number below `2 ^ 64`. -/
def position? (segment : List Char) : Option Nat :=
  let digits := match segment with
    | '+' :: rest => rest
    | _ => segment
  if digits.isEmpty || !digits.all Double.isDigit then none
  else
    let n := Double.digitsValue digits
    if n < 1 <<< 64 then some n else none

/-- What one path segment leads to. -/
def child? (v : Value) (segment : String) : Option Value :=
  match v with
  | .object members => Dict.get? members segment
  | .list items => (position? segment.toList).bind (items[·]?)
  | _ => none

/-- What a path leads to. -/
def lookup (v : Value) : List String → Option Value
  | [] => some v
  | segment :: rest => (v.child? segment).bind (·.lookup rest)

end Value

end Planwright
