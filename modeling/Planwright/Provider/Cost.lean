import Planwright.Value.Shape
import Planwright.Double.Reading
import Planwright.Double.Binary

set_option autoImplicit false

/-!
# Costs

A cost is a decimal that keeps the places it was written with: `0.10` stays `0.10`.  Its digits
are a whole number below `2 ^ 96`, and it has at most 28 places.
-/

namespace Planwright

/-- The decimal `± mantissa / 10 ^ scale`. -/
structure Cost where
  negative : Bool
  mantissa : Nat
  scale : Nat
  deriving DecidableEq, Repr, Inhabited

namespace Cost

/-- No cost. -/
def zero : Cost := ⟨false, 0, 0⟩

/-- The mantissa stays below this. -/
def bound : Nat := 1 <<< 96

/-- The greatest number of places. -/
def maxScale : Nat := 28

/-- Zero has no sign. -/
def signed (negative : Bool) (mantissa scale : Nat) : Cost :=
  ⟨negative && mantissa != 0, mantissa, scale⟩

/-! ## Text -/

/-- The digits of a cost with its point. -/
def digits (mantissa scale : Nat) : List Char :=
  let ds := Nat.toDigits 10 mantissa
  if scale = 0 then ds
  else
    let ds := List.replicate (scale + 1 - ds.length) '0' ++ ds
    ds.take (ds.length - scale) ++ '.' :: ds.drop (ds.length - scale)

/-- A cost as text. -/
def text (c : Cost) : String :=
  String.ofList ((if c.negative then ['-'] else []) ++ digits c.mantissa c.scale)

/-- What was read of a cost so far. -/
structure Reading where
  mantissa : Nat
  scale : Nat
  /-- whether the point was read -/
  point : Bool
  /-- whether a digit was read -/
  any : Bool
  deriving DecidableEq, Repr, Inhabited

/-- Reads digits, with one point and, after the first digit, low lines anywhere.  A digit after
the point that does not fit rounds the one before it and ends the reading. -/
def readDigits (r : Reading) : List Char → Option Reading
  | [] => if r.any then some r else none
  | '_' :: rest => if r.any then readDigits r rest else none
  | '.' :: rest => if r.point then none else readDigits { r with point := true } rest
  | c :: rest =>
    match Double.digit? c with
    | none => none
    | some d =>
      let m := r.mantissa * 10 + d
      if bound ≤ m ∨ (r.point ∧ maxScale ≤ r.scale) then
        if !r.point then none
        else
          let m := if 5 ≤ d then r.mantissa + 1 else r.mantissa
          if m < bound then some { r with mantissa := m }
          else if r.scale = 0 then none
          else some { r with mantissa := (m + 4) / 10, scale := r.scale - 1 }
      else readDigits ⟨m, if r.point then r.scale + 1 else 0, r.point, true⟩ rest

/-- Reads a cost without an exponent. -/
def readPlain (s : List Char) : Option Cost :=
  let read (negative : Bool) (s : List Char) : Option Cost :=
    (readDigits ⟨0, 0, false, false⟩ s).map fun r => signed negative r.mantissa r.scale
  match s with
  | '-' :: rest => read true rest
  | '+' :: rest => read false rest
  | _ => read false s

/-- Moves the point of a cost to the right, or to the left for a negative number of places. -/
def movePoint (c : Cost) (places : Int) : Option Cost :=
  let scale : Int := c.scale - places
  if scale < 0 then
    let m := c.mantissa * Nat.pow 10 (-scale).toNat
    if m < bound then some ⟨c.negative, m, 0⟩ else none
  else if scale ≤ maxScale then some ⟨c.negative, c.mantissa, scale.toNat⟩
  else none

/-- Reads a cost, perhaps with an exponent. -/
def read? (s : List Char) : Option Cost :=
  match s.span (fun c => c != 'e' && c != 'E') with
  | (base, []) => readPlain base
  | (base, _ :: power) => do
    let c ← readPlain base
    let places ← Double.exponent? power
    if places.natAbs < 1 <<< 32 then c.movePoint (max (-100) (min 100 places)) else none

/-! ## Doubles -/

/-- A mantissa with a power of ten. -/
structure Scaled where
  mantissa : Nat
  exponent : Int
  deriving DecidableEq, Repr, Inhabited

/-- Removes `n` factors of one half.  An odd mantissa is multiplied by five, ten times smaller;
a bit that then has no room is dropped. -/
def halve : Nat → Scaled → Scaled
  | 0, s => s
  | n + 1, s =>
    if s.mantissa % 2 = 0 then halve n ⟨s.mantissa / 2, s.exponent + 1⟩
    else if s.mantissa * 5 < bound then halve n ⟨s.mantissa * 5, s.exponent⟩
    else halve n ⟨s.mantissa / 2, s.exponent + 1⟩

/-- Removes `n` factors of two.  A mantissa that has room is doubled, and one that has none is
divided by five, ten times greater. -/
def double : Nat → Scaled → Scaled
  | 0, s => s
  | n + 1, s =>
    if s.mantissa < 1 <<< 95 then double n ⟨s.mantissa * 2, s.exponent - 1⟩
    else double n ⟨s.mantissa / 5, s.exponent⟩

/-- Divides by ten, a half rounding up. -/
def Scaled.shortened (s : Scaled) : Scaled :=
  ⟨s.mantissa / 10 + (if 5 ≤ s.mantissa % 10 then 1 else 0), s.exponent + 1⟩

/-- Drops digits, at most `fuel` of them, while there are too many places. -/
def dropPlaces : Nat → Scaled → Scaled
  | 0, s => s
  | fuel + 1, s =>
    if s.exponent < -(maxScale : Int) then
      if s.mantissa / 10 = 0 then ⟨0, 0⟩ else dropPlaces fuel s.shortened
    else s

/-- Drops places, at most `fuel` of them, while the mantissa holds more digits than a double
is sure of. -/
def dropExcess : Nat → Scaled → Scaled
  | 0, s => s
  | fuel + 1, s =>
    if s.exponent < 0 ∧ 1 <<< 52 ≤ s.mantissa then dropExcess fuel s.shortened else s

/-- Drops zeros at the end, at most `fuel` of them, while there are places. -/
def dropZeros : Nat → Scaled → Scaled
  | 0, s => s
  | fuel + 1, s =>
    if s.exponent < 0 ∧ s.mantissa % 10 = 0 then
      dropZeros fuel ⟨s.mantissa / 10, s.exponent + 1⟩
    else s

/-- The cost that a double stands for: its value with the digits that a double is sure of. -/
def ofFloat? (x : Float) : Option Cost :=
  match Double.parts x with
  | ⟨negative, .finite m e⟩ =>
    if m = 0 then some ⟨negative, 0, 0⟩
    else
      let s := if e < 0 then halve e.natAbs ⟨m, e⟩ else double e.toNat ⟨m, e⟩
      if 0 < s.exponent then
        let m := s.mantissa * Nat.pow 10 s.exponent.toNat
        if m < bound then some ⟨negative, m, 0⟩ else none
      else
        let s := dropZeros 30 (dropExcess 30 (dropPlaces 1200 s))
        some ⟨negative, s.mantissa, (-s.exponent).toNat⟩
  | _ => none

/-- The double nearest to a cost, up to the rounding of its parts: whole part and fraction are
added as doubles and the sum is rounded to the places of the cost. -/
def toFloat (c : Cost) : Float :=
  let size :=
    if c.scale = 0 then Float.ofNat c.mantissa
    else
      let unit := Nat.pow 10 c.scale
      let whole := Float.ofNat (c.mantissa / unit)
      let fraction := Float.ofNat (c.mantissa % unit) / Float.ofNat unit
      if fraction == 0.0 then whole
      else Double.nearestWhole ((whole + fraction) * Float.ofNat unit) / Float.ofNat unit
  if c.negative then -size else size

/-- Reads a cost: a number, a text, or null for none. -/
def ofValue : Shape Cost
  | .null => .ok zero
  | .number n =>
    match ofFloat? n.toFloat with
    | some c => .ok c
    | none => .error (.noCost (.number n))
  | .text s =>
    match read? s.toList with
    | some c => .ok c
    | none => .error (.badCost s)
  | v => .error (.noCost v)

end Cost

end Planwright
