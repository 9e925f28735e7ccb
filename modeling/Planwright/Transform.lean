import Planwright.Expr.Eval

set_option autoImplicit false

/-!
# Transforms

Simple changes of one value: reading a number out of text, changing case, rounding and taking
the absolute value.
-/

namespace Planwright

/-- The transforms. -/
inductive Transform where
  /-- `"$65,000.12"` becomes `65000.12` -/
  | parseNumber
  | toUpperCase
  | toLowerCase
  | round
  | abs
  deriving DecidableEq, Repr, Inhabited

namespace Transform

/-- The word for a transform. -/
def name : Transform → String
  | .parseNumber => "parseNumber"
  | .toUpperCase => "toUpperCase"
  | .toLowerCase => "toLowerCase"
  | .round => "round"
  | .abs => "abs"

/-- All transforms. -/
def all : List Transform := [.parseNumber, .toUpperCase, .toLowerCase, .round, .abs]

theorem mem_all (t : Transform) : t ∈ all := by cases t <;> decide

/-- What can be wrong with a transform. -/
inductive Fault where
  /-- a transform of numbers was given something else -/
  | needsNumber (t : Transform) (input : Value)
  /-- neither text nor a number -/
  | needsText (input : Value)
  /-- a text without a finite number -/
  | notANumber (text : String)
  deriving Repr, Inhabited

namespace Fault

/-- The fault as a failure. -/
def failure : Fault → Failure
  | .needsNumber t input => .invalid (t.name ++ " needs a number, got " ++ input.written)
  | .needsText input => .invalid ("parseNumber needs text or a number, got " ++ input.written)
  | .notANumber text => .invalid ("'" ++ text ++ "' is not a number")

end Fault

/-- The transform that a word names. -/
def ofName (word : String) : Except Failure Transform :=
  match all.find? (·.name == word) with
  | some t => .ok t
  | none => .error (.unknownOperation ("unknown transform '" ++ word ++ "'"))

/-- How many places a number is rounded to, if nothing else is said. -/
def defaultPlaces : Nat := 2

/-- The greatest number of places. -/
def maxPlaces : Nat := 15

/-- The number that a value stands for, for a transform that needs one. -/
def numberOf (t : Transform) (input : Value) : Except Fault Float :=
  match input.toFloat? with
  | some x => .ok x
  | none => .error (.needsNumber t input)

/-- A text without the decoration of numbers: dollar signs, commas and blanks. -/
def undecorated (s : List Char) : List Char :=
  s.filter fun c => c != '$' && c != ',' && !Text.isBlank c

/-- Reads a number out of a value. -/
def readNumber (input : Value) : Except Fault Float :=
  match input with
  | .number n => .ok n.toFloat
  | .text s =>
    match Double.readFloat (undecorated s.toList) with
    | some x => if x.isFinite then .ok x else .error (.notANumber s)
    | none => .error (.notANumber s)
  | _ => .error (.needsText input)

/-- Applies a transform; `places` is for rounding only. -/
def apply (t : Transform) (input : Value) (places : Option Nat) : Except Fault Value :=
  match t with
  | .parseNumber => (readNumber input).map .ofFloat
  | .toUpperCase => .ok (.text (Text.upperString input.shown))
  | .toLowerCase => .ok (.text (Text.lowerString input.shown))
  | .round => (numberOf t input).map fun x =>
      .ofFloat (Expr.roundTo (min (places.getD defaultPlaces) maxPlaces) x)
  | .abs => (numberOf t input).map fun x => .ofFloat x.abs

end Transform

end Planwright
