import Planwright.Double.Binary

set_option autoImplicit false

/-!
# The fewest digits that read back

The reals that round to a given finite double form an interval around it; its ends belong to it
when the significand is even.  For one digit, two digits and so on, the two neighbours of the
double on that decimal grid are tested, in exact integer arithmetic: the first grid with a
neighbour inside the interval gives the digits, and of two such neighbours the nearer one does.

A layout then says how digits and exponent are written.
-/

namespace Planwright.Double

/-- The number `digits * 10 ^ exponent`. -/
structure Decimal where
  digits : Nat
  exponent : Int
  deriving DecidableEq, Repr, Inhabited

/-- Which of two decimals at the same distance is taken. -/
inductive Tie where
  | even
  | up
  deriving DecidableEq, Repr, Inhabited

/-- How many decimal digits a natural number has; zero has one. -/
def digitCount (n : Nat) : Nat := (Nat.toDigits 10 n).length

/-- A fraction, for comparing multiples of powers of two and ten. -/
structure Ratio where
  num : Nat
  den : Nat
  deriving DecidableEq, Repr, Inhabited

/-- `2 ^ binary * 10 ^ decimal` as a fraction. -/
def powers (binary decimal : Int) : Ratio :=
  ⟨Nat.pow 10 decimal.toNat <<< binary.toNat, Nat.pow 10 (-decimal).toNat <<< (-binary).toNat⟩

/-- The exponent `p` with `10 ^ p ≤ m * 2 ^ e < 10 ^ (p + 1)`, for positive `m`. -/
def leadingExponent (m : Nat) (e : Int) : Int :=
  let r := powers e 330
  (digitCount (m * r.num / r.den) : Int) - 331

/-- The interval of reals that round to `m * 2 ^ e`, in quarters of `2 ^ e`.  Below a power of two
the next double is only half as far. -/
structure Interval where
  low : Nat
  high : Nat
  closed : Bool
  deriving DecidableEq, Repr, Inhabited

/-- The rounding interval of `m * 2 ^ e`. -/
def Interval.around (m : Nat) (e : Int) : Interval :=
  let near := m = 1 <<< 52 ∧ minExponent < e
  ⟨if near then 4 * m - 1 else 4 * m - 2, 4 * m + 2, m % 2 == 0⟩

/-- Whether `d * den` lies in the interval scaled by `num`. -/
def Interval.holds (i : Interval) (r : Ratio) (d : Nat) : Bool :=
  if i.closed then i.low * r.num <= d * r.den && d * r.den <= i.high * r.num
  else i.low * r.num < d * r.den && d * r.den < i.high * r.num

/-- The decimal on the grid `10 ^ k` that reads back as `m * 2 ^ e`, if the grid has one; of two
the nearer, and `tie` decides when both are as near. -/
def onGrid? (tie : Tie) (m : Nat) (e k : Int) : Option Decimal :=
  let i := Interval.around m e
  let r := powers (e - 2) (-k)
  let below := 4 * m * r.num / r.den
  let value := 8 * m * r.num
  let middle := (2 * below + 1) * r.den
  let above :=
    middle < value || (middle == value && (tie == .up || below % 2 == 1))
  match i.holds r below, i.holds r (below + 1) with
  | true, true => some ⟨if above then below + 1 else below, k⟩
  | true, false => some ⟨below, k⟩
  | false, true => some ⟨below + 1, k⟩
  | false, false => none

/-- The decimal with a zero at its end written with one digit less, as often as there is one. -/
def Decimal.trimmed (d : Decimal) : Decimal :=
  strip (digitCount d.digits) d
where
  /-- Takes off at most `fuel` zeros. -/
  strip : Nat → Decimal → Decimal
    | 0, d => d
    | fuel + 1, d =>
      if d.digits % 10 = 0 ∧ d.digits ≠ 0 then strip fuel ⟨d.digits / 10, d.exponent + 1⟩ else d

/-- Tries the grids of `n`, `n + 1`, … digits, at most `fuel` of them. -/
def searchGrids (tie : Tie) (m : Nat) (e leading : Int) : Nat → Nat → Option Decimal
  | 0, _ => none
  | fuel + 1, n =>
    match onGrid? tie m e (leading - n + 1) with
    | some d => some d
    | none => searchGrids tie m e leading fuel (n + 1)

/-- The shortest decimal that reads back as `m * 2 ^ e`.  Seventeen digits always do. -/
def shortest (tie : Tie) (m : Nat) (e : Int) : Decimal :=
  if m = 0 then ⟨0, 0⟩
  else match searchGrids tie m e (leadingExponent m e) 17 1 with
    | some d => d.trimmed
    | none => ⟨0, 0⟩

/-! ## Layouts -/

/-- How digits and exponent become text. -/
structure Layout where
  /-- leading exponents written without an exponent, the first included and the second not;
  none if all are -/
  positional : Option (Int × Int)
  /-- whether a whole number written without an exponent ends in `.0` -/
  keepsPoint : Bool
  tie : Tie
  deriving DecidableEq, Repr, Inhabited

/-- A text of `n` zeros. -/
def zeros (n : Nat) : List Char := List.replicate n '0'

/-- The decimal written without an exponent. -/
def Decimal.positional (keepsPoint : Bool) (d : Decimal) : List Char :=
  let ds := Nat.toDigits 10 d.digits
  if 0 ≤ d.exponent then
    ds ++ zeros d.exponent.toNat ++ (if keepsPoint then ['.', '0'] else [])
  else
    let places := (-d.exponent).toNat
    let ds := zeros (places + 1 - ds.length) ++ ds
    ds.take (ds.length - places) ++ '.' :: ds.drop (ds.length - places)

/-- The decimal written with one digit before the point and an exponent with its sign. -/
def Decimal.scientific (d : Decimal) : List Char :=
  match Nat.toDigits 10 d.digits with
  | [] => []
  | lead :: rest =>
    let exponent := d.exponent + rest.length
    let fraction := if rest.isEmpty then [] else '.' :: rest
    let sign := if exponent < 0 then '-' else '+'
    lead :: fraction ++ 'e' :: sign :: Nat.toDigits 10 exponent.natAbs

/-- Writes a decimal as the layout says. -/
def Layout.write (l : Layout) (d : Decimal) : List Char :=
  let leading := d.exponent + digitCount d.digits - 1
  match l.positional with
  | none => d.positional l.keepsPoint
  | some (first, below) =>
    if d.digits = 0 ∨ (first ≤ leading ∧ leading < below) then d.positional l.keepsPoint
    else d.scientific

/-- The text of a double: its shortest digits in the given layout, with `NaN`, `inf` and `-inf`
for those that are no numbers. -/
def Layout.text (l : Layout) (x : Float) : List Char :=
  match parts x with
  | ⟨_, .nan⟩ => "NaN".toList
  | ⟨negative, .infinite⟩ => (if negative then ['-'] else []) ++ "inf".toList
  | ⟨negative, .finite m e⟩ =>
    (if negative then ['-'] else []) ++ l.write (shortest l.tie m e)

/-- Doubles in running text: never an exponent, and no point in whole numbers. -/
def plain : Layout := ⟨none, false, .up⟩

/-- Doubles in structured text: a point or an exponent always tells them from integers. -/
def marked : Layout := ⟨some (-5, 16), true, .even⟩

/-- The text of a double in running text. -/
def plainText (x : Float) : String := String.ofList (plain.text x)

end Planwright.Double
