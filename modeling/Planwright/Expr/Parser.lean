import Planwright.Expr.Lexer
import Planwright.Text.Bytes

set_option autoImplicit false

/-!
# Reading expressions

The grammar, loosest binding first:

```text
sum      := product (('+' | '-') product)*
product  := unary (('*' | '/' | '%') unary)*
unary    := '-' unary | power
power    := atom ('^' unary)?
atom     := number | name | name '(' sum (',' sum)* ')' | '(' sum ')'
```

Every sum, every minus sign and every exponent opens one level of nesting, and only so many
levels are allowed.  Since each recursion of the grammar opens a level, a parser for `n` levels is
put together from the parser for one level less, and recursion is on the number of levels alone.
-/

namespace Planwright.Expr

/-- Reads an expression from the front of a list of tokens. -/
abbrev Parser : Type := List Token → Except Fault (Expr × List Token)

/-- How many levels of nesting are allowed. -/
def maxNesting : Nat := 64

/-- How many bytes the text of an expression may have. -/
def maxLength : Nat := 1024

/-- Reads one particular token. -/
def expectClosing : List Token → Except Fault (List Token)
  | .closing :: rest => .ok rest
  | t :: _ => .error (.unexpectedToken t.shown)
  | [] => .error .unexpectedEnd

/-- Reads further operands of a chain as long as an operator of the chain follows, each step
taking what was read so far as its left operand. -/
def chainFrom (ops : List BinOp) (operand : Parser) : Nat → Expr → Parser
  | 0, left, ts => .ok (left, ts)
  | fuel + 1, left, ts =>
    match ts with
    | .op o :: rest =>
      if ops.contains o then
        match operand rest with
        | .error f => .error f
        | .ok (right, rest) => chainFrom ops operand fuel (.bin o left right) rest
      else .ok (left, ts)
    | _ => .ok (left, ts)

/-- Reads operands joined by operators of one binding strength, grouped to the left.  A chain has
fewer operators than there are tokens. -/
def chain (ops : List BinOp) (operand : Parser) : Parser := fun ts =>
  match operand ts with
  | .error f => .error f
  | .ok (left, rest) => chainFrom ops operand rest.length left rest

/-- Reads a sum from the parser of unary expressions one level down, if there is a level. -/
def sum (deeper : Option Parser) : Parser :=
  match deeper with
  | none => fun _ => .error .tooComplex
  | some unary => chain [.add, .sub] (chain [.mul, .div, .rem] unary)

/-- Reads further arguments, each after a comma, up to the closing parenthesis. -/
def moreArgs (arg : Parser) : Nat → List Token → Except Fault (List Expr × List Token)
  | 0, ts => (expectClosing ts).map fun rest => ([], rest)
  | fuel + 1, ts =>
    match ts with
    | .comma :: rest =>
      match arg rest with
      | .error f => .error f
      | .ok (e, rest) =>
        match moreArgs arg fuel rest with
        | .error f => .error f
        | .ok (es, rest) => .ok (e :: es, rest)
    | _ => (expectClosing ts).map fun rest => ([], rest)

/-- Reads an atom. -/
def atom (deeper : Option Parser) : Parser
  | .num x :: rest => .ok (.num x, rest)
  | .name s :: .opening :: rest =>
    match Func.ofName? s with
    | none => .error (.unknownFunction s)
    | some f =>
      match sum deeper rest with
      | .error e => .error e
      | .ok (e, rest) => (moreArgs (sum deeper) rest.length rest).map fun (es, rest) =>
          (.call f (e :: es), rest)
  | .name s :: rest => .ok (.var s, rest)
  | .opening :: rest =>
    match sum deeper rest with
    | .error f => .error f
    | .ok (e, rest) => (expectClosing rest).map fun rest => (e, rest)
  | t :: _ => .error (.unexpectedToken t.shown)
  | [] => .error .unexpectedEnd

/-- Reads one level down, if there is a level. -/
def descend (deeper : Option Parser) : Parser :=
  match deeper with
  | none => fun _ => .error .tooComplex
  | some unary => unary

/-- Reads a power. -/
def power (deeper : Option Parser) : Parser := fun ts =>
  match atom deeper ts with
  | .error f => .error f
  | .ok (base, .op .pow :: rest) =>
    (descend deeper rest).map fun (exponent, rest) => (.bin .pow base exponent, rest)
  | .ok (base, rest) => .ok (base, rest)

/-- Reads a unary expression from the parser of unary expressions one level down. -/
def unaryOver (deeper : Option Parser) : Parser
  | .op .sub :: rest => (descend deeper rest).map fun (e, rest) => (.neg e, rest)
  | ts => power deeper ts

/-- Reads a unary expression that opens at most so many levels. -/
def unary : Nat → Parser
  | 0 => unaryOver none
  | levels + 1 => unaryOver (some (unary levels))

/-- Reads a sum that opens at most so many levels, itself included. -/
def sumWithin : Nat → Parser
  | 0 => sum none
  | levels + 1 => sum (some (unary levels))

/-- Reads an expression that takes all tokens. -/
def parseTokens (ts : List Token) : Except Fault Expr :=
  match sumWithin maxNesting ts with
  | .error f => .error f
  | .ok (e, []) => .ok e
  | .ok (_, t :: _) => .error (.unexpectedToken t.shown)

/-- Reads an expression from its text. -/
def parse (source : String) : Except Fault Expr :=
  if maxLength < Text.byteLength source.toList then .error .tooComplex
  else
    match tokenize 0 source.toList with
    | .error f => .error f
    | .ok ts => parseTokens ts

end Planwright.Expr
