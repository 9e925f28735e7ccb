import Planwright.Value.View
import Planwright.Double.Fixed
import Planwright.Text.Search

set_option autoImplicit false

/-!
# Presentation filters

A filter says how a referenced value is presented in text: as an amount of money, a grouped
number, a percentage, or in one case.  A value that stands for no number passes the numeric
filters as plain text.
-/

namespace Planwright

/-- How a value is presented. -/
inductive Filter where
  /-- `$65,000.12` -/
  | currency
  /-- `65,000.12` -/
  | number
  /-- `12.50%` -/
  | percent
  | upper
  | lower
  deriving DecidableEq, Repr, Inhabited

namespace Filter

/-- The word for the filter. -/
def name : Filter → String
  | .currency => "currency"
  | .number => "number"
  | .percent => "percent"
  | .upper => "upper"
  | .lower => "lower"

/-- All filters. -/
def all : List Filter := [.currency, .number, .percent, .upper, .lower]

/-- The filter that a word names. -/
def ofName? (word : List Char) : Option Filter := all.find? (·.name.toList == word)

theorem mem_all (f : Filter) : f ∈ all := by cases f <;> decide

/-- The size of a double with two places, its whole part grouped by commas. -/
def groupedSize (x : Float) : List Char :=
  match Text.cutAt '.' (Double.fixedSize x) with
  | some (whole, places) => Double.groupDigits whole ++ '.' :: places
  | none => Double.groupDigits (Double.fixedSize x) ++ ".00".toList

/-- The sign of a double: a minus for numbers below zero only. -/
def sign (x : Float) : List Char := if Double.isBelowZero x then ['-'] else []

/-- A double as an amount of money. -/
def currencyText (x : Float) : List Char := sign x ++ '$' :: groupedSize x

/-- A double with its digits grouped. -/
def numberText (x : Float) : List Char := sign x ++ groupedSize x

/-- A double as a percentage. -/
def percentText (x : Float) : List Char := Double.fixed x ++ ['%']

/-- A numeric filter: plain text for what stands for no number. -/
def numeric (write : Float → List Char) (v : Value) : String :=
  match v.toFloat? with
  | some x => String.ofList (write x)
  | none => v.shown

/-- Presents a value. -/
def apply : Filter → Value → String
  | .currency => numeric currencyText
  | .number => numeric numberText
  | .percent => numeric percentText
  | .upper => fun v => Text.upperString v.shown
  | .lower => fun v => Text.lowerString v.shown

end Filter

end Planwright
