import Planwright.Value.Basic
import Planwright.Double.Reading

set_option autoImplicit false

/-!
# Reading values

The structured text of a value, read from a list of characters.  A number without a point or an
exponent is an integer if it fits 64 bits, signed or unsigned; every other number, and `-0`, is
the nearest double.  Members are sorted by name, a later one winning over an earlier of the same
name.
-/

namespace Planwright.Value

/-- Why a text is no value. -/
inductive ReadFault where
  /-- the text ends inside a value -/
  | ended
  /-- a character that cannot stand where it stands -/
  | unexpected (c : Char)
  /-- an escape that denotes no character -/
  | badEscape
  /-- a number that the grammar does not allow, or without a finite double -/
  | badNumber
  /-- something follows the value -/
  | trailing
  deriving DecidableEq, Repr, Inhabited

/-- The blanks of structured text. -/
def isGap (c : Char) : Bool := c == ' ' || c == '\t' || c == '\n' || c == '\r'

/-- The text without leading blanks. -/
def skipGap (s : List Char) : List Char := s.dropWhile isGap

/-- The value of a hexadecimal digit. -/
def hexValue? (c : Char) : Option Nat :=
  if '0' ≤ c ∧ c ≤ '9' then some (c.toNat - '0'.toNat)
  else if 'a' ≤ c ∧ c ≤ 'f' then some (c.toNat - 'a'.toNat + 10)
  else if 'A' ≤ c ∧ c ≤ 'F' then some (c.toNat - 'A'.toNat + 10)
  else none

/-- Four hexadecimal digits and the rest. -/
def readUnit (s : List Char) : Except ReadFault (Nat × List Char) :=
  match s with
  | a :: b :: c :: d :: rest =>
    match hexValue? a, hexValue? b, hexValue? c, hexValue? d with
    | some a, some b, some c, some d => .ok (((a * 16 + b) * 16 + c) * 16 + d, rest)
    | _, _, _, _ => .error .badEscape
  | _ => .error .ended

/-- A character given by one unit of sixteen bits or by a pair of surrogates. -/
def readUnits (s : List Char) : Except ReadFault (Char × List Char) := do
  let (u, rest) ← readUnit s
  if 0xD800 ≤ u ∧ u < 0xDC00 then
    match rest with
    | '\\' :: 'u' :: more =>
      let (v, rest) ← readUnit more
      if 0xDC00 ≤ v ∧ v < 0xE000 then
        .ok (Char.ofNat (0x10000 + (u - 0xD800) * 0x400 + (v - 0xDC00)), rest)
      else .error .badEscape
    | _ => .error .badEscape
  else if 0xDC00 ≤ u ∧ u < 0xE000 then .error .badEscape
  else .ok (Char.ofNat u, rest)

/-- The rest of a quoted text, after its opening quote; `done` is what was read, backwards. -/
def readQuoted (done : List Char) : Nat → List Char → Except ReadFault (String × List Char)
  | 0, _ => .error .ended
  | _, [] => .error .ended
  | fuel + 1, c :: rest =>
    match c with
    | '"' => .ok (String.ofList done.reverse, rest)
    | '\\' =>
      match rest with
      | '"' :: rest => readQuoted ('"' :: done) fuel rest
      | '\\' :: rest => readQuoted ('\\' :: done) fuel rest
      | '/' :: rest => readQuoted ('/' :: done) fuel rest
      | 'b' :: rest => readQuoted ('\x08' :: done) fuel rest
      | 'f' :: rest => readQuoted ('\x0c' :: done) fuel rest
      | 'n' :: rest => readQuoted ('\n' :: done) fuel rest
      | 'r' :: rest => readQuoted ('\r' :: done) fuel rest
      | 't' :: rest => readQuoted ('\t' :: done) fuel rest
      | 'u' :: rest => do
        let (c, rest) ← readUnits rest
        readQuoted (c :: done) fuel rest
      | [] => .error .ended
      | _ => .error .badEscape
    | c => if c.toNat < 32 then .error (.unexpected c) else readQuoted (c :: done) fuel rest

/-- Whether a character can stand in a number. -/
def isNumberChar (c : Char) : Bool :=
  Double.isDigit c || c == '-' || c == '+' || c == '.' || c == 'e' || c == 'E'

/-- Whether the text has the form of a number: no superfluous leading zero, and digits on both
sides of a point. -/
def isNumeral (s : List Char) : Bool :=
  let s := match s with
    | '-' :: rest => rest
    | _ => s
  let (whole, rest) := Double.takeDigits s
  let wholeOk := match whole with
    | [] => false
    | '0' :: more => more.isEmpty
    | _ => true
  let (fractionOk, rest) := match rest with
    | '.' :: more => ((Double.takeDigits more).1 != [], (Double.takeDigits more).2)
    | _ => (true, rest)
  let powerOk := match rest with
    | [] => true
    | 'e' :: more => (Double.exponent? more).isSome
    | 'E' :: more => (Double.exponent? more).isSome
    | _ => false
  wholeOk && fractionOk && powerOk

/-- The number that a numeral denotes. -/
def numberOf (s : List Char) : Except ReadFault Number :=
  if !isNumeral s then .error .badNumber
  else
    let double : Except ReadFault Number :=
      match Double.readFloat s with
      | some x => if x.isFinite then .ok (.real x) else .error .badNumber
      | none => .error .badNumber
    match s with
    | '-' :: ds =>
      if ds.all Double.isDigit then
        let n := Double.digitsValue ds
        if n ≠ 0 ∧ n ≤ 1 <<< 63 then .ok (.integer (-(n : Int))) else double
      else double
    | ds =>
      if ds.all Double.isDigit then
        let n := Double.digitsValue ds
        if n < 1 <<< 64 then .ok (.integer n) else double
      else double

mutual

/-- Reads a value from the front of a text without leading blanks. -/
def readValue : Nat → List Char → Except ReadFault (Value × List Char)
  | 0, _ => .error .ended
  | fuel + 1, s =>
    match s with
    | 'n' :: 'u' :: 'l' :: 'l' :: rest => .ok (.null, rest)
    | 't' :: 'r' :: 'u' :: 'e' :: rest => .ok (.bool true, rest)
    | 'f' :: 'a' :: 'l' :: 's' :: 'e' :: rest => .ok (.bool false, rest)
    | '"' :: rest => do
      let (t, rest) ← readQuoted [] (fuel + 1) rest
      .ok (.text t, rest)
    | '[' :: rest =>
      match skipGap rest with
      | ']' :: rest => .ok (.list [], rest)
      | rest => do
        let (items, rest) ← readItems fuel rest
        .ok (.list items, rest)
    | '\x7b' :: rest =>
      match skipGap rest with
      | '\x7d' :: rest => .ok (.object [], rest)
      | rest => do
        let (members, rest) ← readMembers fuel rest
        .ok (.ofMembers members, rest)
    | [] => .error .ended
    | c :: _ =>
      if isNumberChar c then do
        let n ← numberOf (s.takeWhile isNumberChar)
        .ok (.number n, s.dropWhile isNumberChar)
      else .error (.unexpected c)

/-- Reads the items of a list, the first one included, up to the closing bracket. -/
def readItems : Nat → List Char → Except ReadFault (List Value × List Char)
  | 0, _ => .error .ended
  | fuel + 1, s => do
    let (v, rest) ← readValue fuel s
    match skipGap rest with
    | ',' :: rest =>
      let (vs, rest) ← readItems fuel (skipGap rest)
      .ok (v :: vs, rest)
    | ']' :: rest => .ok ([v], rest)
    | c :: _ => .error (.unexpected c)
    | [] => .error .ended

/-- Reads the members of an object, the first one included, up to the closing brace. -/
def readMembers : Nat → List Char → Except ReadFault (List (String × Value) × List Char)
  | 0, _ => .error .ended
  | fuel + 1, s =>
    match s with
    | '"' :: rest => do
      let (name, rest) ← readQuoted [] (fuel + 1) rest
      match skipGap rest with
      | ':' :: rest =>
        let (v, rest) ← readValue fuel (skipGap rest)
        match skipGap rest with
        | ',' :: rest =>
          let (more, rest) ← readMembers fuel (skipGap rest)
          .ok ((name, v) :: more, rest)
        | '\x7d' :: rest => .ok ([(name, v)], rest)
        | c :: _ => .error (.unexpected c)
        | [] => .error .ended
      | c :: _ => .error (.unexpected c)
      | [] => .error .ended
    | c :: _ => .error (.unexpected c)
    | [] => .error .ended

end

/-- Reads a text that holds one value and nothing else but blanks.  Every step of the reader
consumes a character or opens one level, so twice the length of the text is enough fuel. -/
def read (s : String) : Except ReadFault Value := do
  let cs := skipGap s.toList
  let (v, rest) ← readValue (2 * cs.length + 2) cs
  if (skipGap rest).isEmpty then .ok v else .error .trailing

end Planwright.Value
