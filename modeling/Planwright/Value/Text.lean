import Planwright.Value.Basic
import Planwright.Double.Shortest

set_option autoImplicit false

/-!
# The text of a value

Compact structured text: members in their order, no blanks, and in strings only the quote, the
backslash and control characters escaped.
-/

namespace Planwright

namespace Value

/-- The lower-case digit of a number below sixteen. -/
def hexDigit (n : Nat) : Char := Nat.digitChar n

/-- How a character is written inside quotes. -/
def escapedChar (c : Char) : List Char :=
  match c with
  | '"' => ['\\', '"']
  | '\\' => ['\\', '\\']
  | '\n' => ['\\', 'n']
  | '\r' => ['\\', 'r']
  | '\t' => ['\\', 't']
  | '\x08' => ['\\', 'b']
  | '\x0c' => ['\\', 'f']
  | c =>
    if c.toNat < 32 then ['\\', 'u', '0', '0', hexDigit (c.toNat / 16), hexDigit (c.toNat % 16)]
    else [c]

/-- A text in quotes. -/
def quoted (s : String) : String := String.ofList ('"' :: s.toList.flatMap escapedChar ++ ['"'])

end Value

/-- The text of a number: a double is always told from an integer by its point or exponent. -/
def Number.written : Number → String
  | .integer n => toString n
  | .real x => String.ofList (Double.marked.text x)

namespace Value

mutual

/-- The compact text of a value. -/
def written : Value → String
  | .null => "null"
  | .bool true => "true"
  | .bool false => "false"
  | .number n => n.written
  | .text s => quoted s
  | .list items => "[" ++ writtenItems items ++ "]"
  | .object members => "\x7b" ++ writtenMembers members ++ "\x7d"

/-- The texts of the items of a list, with commas between them. -/
def writtenItems : List Value → String
  | [] => ""
  | [v] => written v
  | v :: w :: rest => written v ++ "," ++ writtenItems (w :: rest)

/-- The texts of the members of an object, with commas between them. -/
def writtenMembers : List (String × Value) → String
  | [] => ""
  | [(k, v)] => quoted k ++ ":" ++ written v
  | (k, v) :: e :: rest => quoted k ++ ":" ++ written v ++ "," ++ writtenMembers (e :: rest)

end

end Value

end Planwright
