set_option autoImplicit false

/-!
# Reading doubles

The texts that denote a double: an optional sign, then either `inf`, `infinity` or `nan` in any
mixture of case, or decimal digits with at most one point, at least one digit beside it, and
optionally an exponent.  The value is the double nearest to the decimal, to the even one of two.
-/

namespace Planwright.Double

/-- The value of a decimal digit. -/
def digit? (c : Char) : Option Nat :=
  if '0' ≤ c ∧ c ≤ '9' then some (c.toNat - '0'.toNat) else none

/-- Whether the character is one of the ten digits. -/
def isDigit (c : Char) : Bool := (digit? c).isSome

/-- The leading digits of a text, and the rest. -/
def takeDigits (s : List Char) : List Char × List Char :=
  (s.takeWhile isDigit, s.dropWhile isDigit)

/-- The value of a text of digits. -/
def digitsValue (ds : List Char) : Nat :=
  ds.foldl (fun n c => 10 * n + (digit? c).getD 0) 0

/-- The whole number that an optionally signed text of digits denotes. -/
def exponent? (s : List Char) : Option Int :=
  let read (negative : Bool) (ds : List Char) : Option Int :=
    if ds.isEmpty || !ds.all isDigit then none
    else some (if negative then -(digitsValue ds : Int) else digitsValue ds)
  match s with
  | '-' :: ds => read true ds
  | '+' :: ds => read false ds
  | ds => read false ds

/-- The double nearest to `digits * 10 ^ exponent`.  Beyond the range of doubles the answer is
zero or infinity, without computing the power. -/
def nearest (digits : Nat) (exponent : Int) : Float :=
  if digits = 0 then 0.0
  else
    let leading := exponent + (Nat.toDigits 10 digits).length
    if 400 < leading then 1.0 / 0.0
    else if leading < -400 then 0.0
    else Float.ofScientific digits (exponent < 0) exponent.natAbs

/-- Reads digits, point and exponent, without a sign. -/
def readUnsigned (s : List Char) : Option Float :=
  let (whole, rest) := takeDigits s
  let (fraction, rest) :=
    match rest with
    | '.' :: more => takeDigits more
    | _ => ([], rest)
  if whole.isEmpty && fraction.isEmpty then none
  else
    let scaled (power : Int) : Float :=
      nearest (digitsValue (whole ++ fraction)) (power - fraction.length)
    match rest with
    | [] => some (scaled 0)
    | 'e' :: power => (exponent? power).map scaled
    | 'E' :: power => (exponent? power).map scaled
    | _ => none

/-- Whether the text is this word of basic Latin letters, in any mixture of case. -/
def isWord (word : String) (s : List Char) : Bool :=
  s.map (fun c => if 'A' ≤ c ∧ c ≤ 'Z' then Char.ofNat (c.toNat + 32) else c) == word.toList

/-- Reads a double without a sign, a word included. -/
def readMagnitude (s : List Char) : Option Float :=
  if isWord "inf" s || isWord "infinity" s then some (1.0 / 0.0)
  else if isWord "nan" s then some (0.0 / 0.0)
  else readUnsigned s

/-- The double that a text denotes. -/
def readFloat (s : List Char) : Option Float :=
  match s with
  | '-' :: rest => (readMagnitude rest).map (-·)
  | '+' :: rest => readMagnitude rest
  | rest => readMagnitude rest

end Planwright.Double
