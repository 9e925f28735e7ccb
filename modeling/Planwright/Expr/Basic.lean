import Planwright.Failure
import Planwright.Double.Shortest

set_option autoImplicit false

/-!
# Arithmetic expressions

Expressions over doubles: numbers, variables, negation, six binary operators and five functions.
This module has the expressions themselves and all that can go wrong with them.
-/

namespace Planwright

/-- The binary operators. -/
inductive BinOp where
  | add
  | sub
  | mul
  | div
  | rem
  | pow
  deriving DecidableEq, Repr, Inhabited

namespace BinOp

/-- The sign of an operator. -/
def sign : BinOp → Char
  | .add => '+'
  | .sub => '-'
  | .mul => '*'
  | .div => '/'
  | .rem => '%'
  | .pow => '^'

/-- All operators. -/
def all : List BinOp := [.add, .sub, .mul, .div, .rem, .pow]

/-- The operator with a given sign. -/
def ofSign? (c : Char) : Option BinOp := all.find? (·.sign == c)

end BinOp

/-- The functions. -/
inductive Func where
  | abs
  | sqrt
  | min
  | max
  | round
  deriving DecidableEq, Repr, Inhabited

namespace Func

/-- The name of a function. -/
def name : Func → String
  | .abs => "abs"
  | .sqrt => "sqrt"
  | .min => "min"
  | .max => "max"
  | .round => "round"

/-- All functions. -/
def all : List Func := [.abs, .sqrt, .min, .max, .round]

/-- The function with a given name. -/
def ofName? (word : String) : Option Func := all.find? (·.name == word)

/-- How many arguments a function takes, in words. -/
def arity : Func → String
  | .abs | .sqrt => "1"
  | .min | .max => "at least 1"
  | .round => "1 or 2"

/-- Whether a function takes this many arguments. -/
def takes (f : Func) (count : Nat) : Bool :=
  match f with
  | .abs | .sqrt => count == 1
  | .min | .max => 1 ≤ count
  | .round => count == 1 || count == 2

end Func

/-- An expression. -/
inductive Expr where
  | num (x : Float)
  | var (name : String)
  | neg (e : Expr)
  | bin (op : BinOp) (left right : Expr)
  | call (f : Func) (args : List Expr)
  deriving Repr, Inhabited

namespace Expr

/-- What can be wrong with an expression. -/
inductive Fault where
  /-- a character outside the language, and its place -/
  | unexpectedChar (c : Char) (place : Nat)
  | unexpectedEnd
  /-- a token where it cannot stand -/
  | unexpectedToken (text : String)
  /-- too long or too deeply nested -/
  | tooComplex
  /-- a variable without a number -/
  | unknownVariable (name : String)
  | unknownFunction (name : String)
  | wrongArity (f : Func) (count : Nat)
  | divisionByZero
  /-- an intermediate or final result that is no finite number -/
  | notFinite
  deriving DecidableEq, Repr, Inhabited

namespace Fault

/-- The wording of a fault. -/
def message : Fault → String
  | .unexpectedChar c place =>
    "unexpected character '" ++ String.singleton c ++ "' at " ++ toString place
  | .unexpectedEnd => "unexpected end of expression"
  | .unexpectedToken text => "unexpected token '" ++ text ++ "'"
  | .tooComplex => "expression too complex"
  | .unknownVariable name => "unknown variable '" ++ name ++ "'"
  | .unknownFunction name => "unknown function '" ++ name ++ "'"
  | .wrongArity f count =>
    f.name ++ " expects " ++ f.arity ++ " argument(s), got " ++ toString count
  | .divisionByZero => "division by zero"
  | .notFinite => "result is not a finite number"

/-- The fault as a failure: an unknown function is an unknown operation, and everything else is
a matter of wrong parameters. -/
def failure (f : Fault) : Failure :=
  match f with
  | .unknownFunction _ => .unknownOperation f.message
  | _ => .invalid f.message

end Fault

end Expr

end Planwright
