import Planwright.Expr.Basic
import Planwright.Double.Reading

set_option autoImplicit false

/-!
# Tokens of expressions

Numbers are runs of digits and points that denote a double; names are runs of basic letters,
digits and `_` that begin with no digit.  Blanks separate tokens and are dropped.
-/

namespace Planwright.Expr

/-- The smallest parts of an expression's text. -/
inductive Token where
  | num (x : Float)
  | name (s : String)
  | op (o : BinOp)
  | opening
  | closing
  | comma
  deriving Repr, Inhabited

namespace Token

/-- How a token appears in a message. -/
def shown : Token → String
  | .num x => Double.plainText x
  | .name s => s
  | .op o => String.singleton o.sign
  | .opening => "("
  | .closing => ")"
  | .comma => ","

end Token

/-- A blank between tokens. -/
def isGap (c : Char) : Bool := c == ' ' || c == '\t' || c == '\n' || c == '\r'

/-- A character of a number. -/
def isNumeric (c : Char) : Bool := Double.isDigit c || c == '.'

/-- A character that can begin a name. -/
def isNameStart (c : Char) : Bool := ('a' ≤ c && c ≤ 'z') || ('A' ≤ c && c ≤ 'Z') || c == '_'

/-- A character of a name. -/
def isNamePart (c : Char) : Bool := isNameStart c || Double.isDigit c

/-- A token of one character. -/
def symbol? (c : Char) : Option Token :=
  match c with
  | '(' => some .opening
  | ')' => some .closing
  | ',' => some .comma
  | _ => (BinOp.ofSign? c).map .op

/-- Reads the tokens of a text whose first character has the given place. -/
def tokenize (place : Nat) (s : List Char) : Except Fault (List Token) :=
  match s with
  | [] => .ok []
  | c :: rest =>
    if isGap c then tokenize (place + 1) rest
    else if isNumeric c then
      let more := rest.takeWhile isNumeric
      have := (List.dropWhile_sublist isNumeric (l := rest)).length_le
      match Double.readFloat (c :: more) with
      | none => .error (.unexpectedToken (String.ofList (c :: more)))
      | some x => do
        let ts ← tokenize (place + 1 + more.length) (rest.dropWhile isNumeric)
        return .num x :: ts
    else if isNameStart c then
      let more := rest.takeWhile isNamePart
      have := (List.dropWhile_sublist isNamePart (l := rest)).length_le
      do
        let ts ← tokenize (place + 1 + more.length) (rest.dropWhile isNamePart)
        return .name (String.ofList (c :: more)) :: ts
    else
      match symbol? c with
      | none => .error (.unexpectedChar c place)
      | some t => do
        let ts ← tokenize (place + 1) rest
        return t :: ts
termination_by s.length
decreasing_by all_goals simp only [List.length_cons]; omega

end Planwright.Expr
