import Planwright.Expr.Eval

set_option autoImplicit false

/-!
# Calculations

The closed library of calculations that a plan can ask for.  Parameters are the members of an
object; a number may also be given as text.  A result that is no finite number is a failure.
-/

namespace Planwright

/-- The calculations. -/
inductive Calculation where
  /-- a principal with interest compounded some times a year, in hundredths -/
  | compoundInterest
  /-- the change between two numbers in percent of the first, with two places -/
  | percentageChange
  /-- the standard deviation of a whole population -/
  | standardDeviation
  | mean
  /-- the correlation coefficient of two series -/
  | correlation
  /-- an arithmetic expression over variables -/
  | evaluate
  deriving DecidableEq, Repr, Inhabited

namespace Calculation

/-- The word for a calculation. -/
def name : Calculation → String
  | .compoundInterest => "compoundInterest"
  | .percentageChange => "percentageChange"
  | .standardDeviation => "standardDeviation"
  | .mean => "mean"
  | .correlation => "correlation"
  | .evaluate => "evaluate"

/-- All calculations. -/
def all : List Calculation :=
  [.compoundInterest, .percentageChange, .standardDeviation, .mean, .correlation, .evaluate]

theorem mem_all (c : Calculation) : c ∈ all := by cases c <;> decide

/-- What can be wrong with a calculation. -/
inductive Fault where
  /-- the parameters are no object -/
  | notAnObject
  | notANumber (name : String)
  | notASeries (name : String)
  | emptySeries (name : String)
  /-- an item of a series that is no number -/
  | badItem (name : String)
  | frequencyNotPositive
  /-- a change in percent of nothing -/
  | changeFromZero
  /-- two series of different length, or with fewer than two items -/
  | lengthsDiffer
  | constantSeries
  | noExpression
  | variablesNotAnObject
  | expression (fault : Expr.Fault)
  | notFinite
  deriving DecidableEq, Repr, Inhabited

namespace Fault

/-- The fault as a failure. -/
def failure : Fault → Failure
  | .notAnObject => .invalid "calculate params must be an object"
  | .notANumber name => .invalid ("'" ++ name ++ "' must be a number")
  | .notASeries name => .invalid ("'" ++ name ++ "' must be an array of numbers")
  | .emptySeries name => .invalid ("'" ++ name ++ "' must not be empty")
  | .badItem name => .invalid ("'" ++ name ++ "' contains a non-number")
  | .frequencyNotPositive => .invalid "'compoundFrequency' must be positive"
  | .changeFromZero => .invalid "percentage change from zero is undefined"
  | .lengthsDiffer => .invalid "'x' and 'y' must have the same length, at least 2"
  | .constantSeries => .invalid "correlation of a constant series is undefined"
  | .noExpression => .invalid "'expression' must be a string"
  | .variablesNotAnObject => .invalid "'variables' must be an object"
  | .expression fault => fault.failure
  | .notFinite => .invalid "calculation result is not a finite number"

end Fault

/-- The calculation that a word names. -/
def ofName (word : String) : Except Failure Calculation :=
  match all.find? (·.name == word) with
  | some c => .ok c
  | none => .error (.unknownOperation ("unknown calculation '" ++ word ++ "'"))

/-! ## Parameters -/

/-- A parameter that is a number. -/
def field (params : Dict Value) (name : String) : Except Fault Float :=
  match (params.get? name).bind Value.toFloat? with
  | some x => .ok x
  | none => .error (.notANumber name)

/-- A parameter that is a list of numbers, at least one. -/
def series (params : Dict Value) (name : String) : Except Fault (List Float) :=
  match params.get? name with
  | some (.list []) => .error (.emptySeries name)
  | some (.list items) =>
    items.mapM fun v =>
      match v.toFloat? with
      | some x => .ok x
      | none => .error (.badItem name)
  | _ => .error (.notASeries name)

/-! ## The rules -/

/-- How often interest is compounded a year, if nothing else is said. -/
def monthly : Float := 12.0

/-- A double rounded to hundredths, a half away from zero. -/
def round2 (x : Float) : Float := Double.nearestWhole (x * 100.0) / 100.0

/-- The sum of a series, from left to right.  The sum of nothing is negative zero, so that a
series of negative zeros keeps its sign. -/
def total (xs : List Float) : Float := xs.foldl (· + ·) (-0.0)

/-- The mean of a series. -/
def meanOf (xs : List Float) : Float := total xs / Float.ofNat xs.length

/-- The sum of the squared distances from a number. -/
def squares (m : Float) (xs : List Float) : Float := total (xs.map fun x => (x - m) * (x - m))

/-- The standard deviation of a series. -/
def deviationOf (xs : List Float) : Float :=
  (squares (meanOf xs) xs / Float.ofNat xs.length).sqrt

/-- The correlation coefficient of two series. -/
def correlationOf (xs ys : List Float) : Except Fault Float :=
  if xs.length ≠ ys.length ∨ xs.length < 2 then .error .lengthsDiffer
  else
    let mx := meanOf xs
    let my := meanOf ys
    let joint := total ((xs.zip ys).map fun (x, y) => (x - mx) * (y - my))
    let vx := squares mx xs
    let vy := squares my ys
    if vx == 0.0 || vy == 0.0 then .error .constantSeries
    else .ok (joint / (vx.sqrt * vy.sqrt))

/-- A principal with compound interest.  An absent frequency, or a null one, means monthly. -/
def compound (params : Dict Value) : Except Fault Float := do
  let principal ← field params "principal"
  let rate ← field params "rate"
  let time ← field params "time"
  let n ← match params.get? "compoundFrequency" with
    | none => .ok monthly
    | some .null => .ok monthly
    | some _ => field params "compoundFrequency"
  if n ≤ 0.0 then .error .frequencyNotPositive
  else .ok (round2 (principal * (1.0 + rate / 100.0 / n).pow (n * time)))

/-- A change in percent. -/
def change (params : Dict Value) : Except Fault Float := do
  let start ← field params "from"
  let finish ← field params "to"
  if start == 0.0 then .error .changeFromZero
  else .ok (round2 ((finish - start) / start.abs * 100.0))

/-- The value of the expression in the parameters. -/
def expression (params : Dict Value) : Except Fault Float := do
  let source ← match params.get? "expression" with
    | some (.text s) => .ok s
    | _ => .error .noExpression
  let vars ← match params.get? "variables" with
    | some (.object vars) => .ok vars
    | none => .ok []
    | some .null => .ok []
    | some _ => .error .variablesNotAnObject
  match Expr.evaluate source vars with
  | .ok x => .ok x
  | .error f => .error (.expression f)

/-- The parameters as members of an object; null means none. -/
def membersOf (params : Value) : Except Fault (Dict Value) :=
  match params with
  | .object members => .ok members
  | .null => .ok []
  | _ => .error .notAnObject

/-- The result of a calculation, before it is known to be finite. -/
def compute (c : Calculation) (params : Dict Value) : Except Fault Float :=
  match c with
  | .compoundInterest => compound params
  | .percentageChange => change params
  | .standardDeviation => (series params "values").map deviationOf
  | .mean => (series params "values").map meanOf
  | .correlation => do
    let xs ← series params "x"
    let ys ← series params "y"
    correlationOf xs ys
  | .evaluate => expression params

/-- Runs a calculation. -/
def run (c : Calculation) (params : Value) : Except Fault Value := do
  let members ← membersOf params
  let x ← c.compute members
  if x.isFinite then .ok (.number (.real x)) else .error .notFinite

end Calculation

end Planwright
