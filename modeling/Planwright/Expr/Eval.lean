import Planwright.Expr.Parser
import Planwright.Value.View

set_option autoImplicit false

/-!
# Values of expressions

Expressions are evaluated over doubles.  Every intermediate result must be a finite number, so
that no infinity and nothing that is "not a number" ever reaches an operator or a caller.
-/

namespace Planwright.Expr

/-- A result that must be finite. -/
def finite (x : Float) : Except Fault Float := if x.isFinite then .ok x else .error .notFinite

/-- The value of an operator.  A remainder has the sign of the dividend. -/
def applyOp (op : BinOp) (a b : Float) : Except Fault Float :=
  match op with
  | .add => .ok (a + b)
  | .sub => .ok (a - b)
  | .mul => .ok (a * b)
  | .div => if b == 0.0 then .error .divisionByZero else .ok (a / b)
  | .rem => if b == 0.0 then .error .divisionByZero else .ok (Double.remainder a b)
  | .pow => .ok (a.pow b)

/-- Ten to a power of at most fifteen, which a double holds exactly. -/
def powerOfTen (digits : Nat) : Float := Float.ofNat (Nat.pow 10 digits)

/-- A double rounded to decimal places, a half away from zero. -/
def roundTo (digits : Nat) (x : Float) : Float :=
  let scale := powerOfTen digits
  Double.nearestWhole (x * scale) / scale

/-- A double as a number of places: its whole part, but no less than none and no more than
fifteen. -/
def placesOf (x : Float) : Nat :=
  match Double.truncated? x with
  | some n => min n.toNat 15
  | none => 0

/-- The least of some doubles. -/
def least (xs : List Float) : Float :=
  xs.foldl (fun least x => if x < least then x else least) (1.0 / 0.0)

/-- The greatest of some doubles. -/
def greatest (xs : List Float) : Float :=
  xs.foldl (fun greatest x => if greatest < x then x else greatest) (-1.0 / 0.0)

/-- The value of a function. -/
def applyFunc (f : Func) (args : List Float) : Except Fault Float :=
  if !f.takes args.length then .error (.wrongArity f args.length)
  else
    let first := args.headD 0
    match f with
    | .abs => .ok first.abs
    | .sqrt => .ok first.sqrt
    | .min => .ok (least args)
    | .max => .ok (greatest args)
    | .round => .ok (roundTo (placesOf ((args.drop 1).headD 0)) first)

/-- The number of a variable. -/
def lookupNumber (vars : Dict Value) (name : String) : Except Fault Float :=
  match (vars.get? name).bind Value.toFloat? with
  | some x => .ok x
  | none => .error (.unknownVariable name)

mutual

/-- The value of an expression. -/
def eval (vars : Dict Value) : Expr → Except Fault Float
  | .num x => finite x
  | .var name => (lookupNumber vars name).bind finite
  | .neg e =>
    match eval vars e with
    | .error f => .error f
    | .ok x => finite (-x)
  | .bin op l r =>
    match eval vars l with
    | .error f => .error f
    | .ok a =>
      match eval vars r with
      | .error f => .error f
      | .ok b => (applyOp op a b).bind finite
  | .call f args =>
    match evalArgs vars args with
    | .error e => .error e
    | .ok xs => (applyFunc f xs).bind finite

/-- The values of arguments, from left to right. -/
def evalArgs (vars : Dict Value) : List Expr → Except Fault (List Float)
  | [] => .ok []
  | e :: rest =>
    match eval vars e with
    | .error f => .error f
    | .ok x =>
      match evalArgs vars rest with
      | .error f => .error f
      | .ok xs => .ok (x :: xs)

end

/-- Reads an expression and evaluates it. -/
def evaluate (source : String) (vars : Dict Value) : Except Fault Float :=
  (parse source).bind (eval vars)

end Planwright.Expr
