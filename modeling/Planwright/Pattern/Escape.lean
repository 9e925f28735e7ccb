import Planwright.Pattern.Flags

set_option autoImplicit false

/-!
# Escapes

A backslash begins an escape: a character by its number, a named set, a condition on a place, or a
sign that would mean something else without the backslash.
-/

namespace Planwright.Pattern

open Planwright.Text

/-- What an escape stands for. -/
inductive Escape where
  /-- One character; `byte` if it was written as two hexadecimal digits. -/
  | char (c : Char) (byte : Bool)
  | set (s : CharSet)
  | look (l : Look)
  deriving DecidableEq, Repr

/-- The character with a number, if there is one. -/
def charOf? (n : Nat) : Option Char := if n.isValidChar then some (Char.ofNat n) else none

/-- Whether a sign is a hexadecimal digit. -/
def isHexDigit (c : Char) : Bool := (Value.hexValue? c).isSome

/-- Reads the number of a character: so many hexadecimal digits, or any number in braces. -/
def hexEscape? (f : Flags) (width : Nat) (s : List Char) : Option (Char × Bool × List Char) :=
  match f.skip s with
  | '{' :: rest =>
    match f.takeAll isHexDigit (f.skip rest) with
    | ([], _) => none
    | (digits, '}' :: rest) => (charOf? (hexNumber digits)).map fun c => (c, false, f.skip rest)
    | _ => none
  | s =>
    let (digits, rest) := f.takeSome isHexDigit width s
    if digits.length == width then
      (charOf? (hexNumber digits)).map fun c => (c, width == 2, rest)
    else none

/-- The set that the text between the braces of a class stands for, and whether the text itself
negates it. -/
def classOf? (name : List Char) : Option (CharSet × Bool) :=
  match afterFirst? ['!', '='] name with
  | some (property, value) => (valued? property value).map fun s => (s, true)
  | none =>
    match cutAt ':' name with
    | some (property, value) => (valued? property value).map fun s => (s, false)
    | none =>
      match cutAt '=' name with
      | some (property, value) => (valued? property value).map fun s => (s, false)
      | none => (named? name).map fun s => (s, false)
where
  /-- The parts before and behind the first occurrence of a word. -/
  afterFirst? (word : List Char) : List Char → Option (List Char × List Char)
    | [] => none
    | c :: rest =>
      match afterStart? word (c :: rest) with
      | some behind => some ([], behind)
      | none => (afterFirst? word rest).map fun (before, behind) => (c :: before, behind)

/-- Reads a named class: one letter, or a name in braces. -/
def classEscape? (f : Flags) (negated : Bool) (s : List Char) : Option (CharSet × List Char) :=
  let found : Option (List Char × List Char) :=
    match f.skip s with
    | '{' :: rest =>
      match f.takeAll (· != '}') (f.skip rest) with
      | (name, '}' :: rest) => some (name, rest)
      | _ => none
    | '\\' :: _ => none
    | c :: rest => some ([c], f.skip rest)
    | [] => none
  match found with
  | none => none
  | some (name, rest) =>
    if f.unicode then
      match classOf? name with
      | some (s, opposite) => (f.finish? (negated != opposite) s).map fun s => (s, rest)
      | none => none
    else none

/-- The set of a one-letter shorthand. -/
def shorthand? (f : Flags) (letter : Char) : Option CharSet :=
  let pick (wide basic : CharSet) : CharSet := if f.unicode then wide else basic
  match letter with
  | 'd' => some (pick digits basicDigits)
  | 's' => some (pick blanks basicBlanks)
  | 'w' => some (pick wordChars basicWordChars)
  | 'D' => if f.unicode then some digits.complement else none
  | 'S' => if f.unicode then some blanks.complement else none
  | 'W' => if f.unicode then some wordChars.complement else none
  | _ => none

/-- Reads what may follow the letter `b`: the name of a kind of word end in braces.  Braces that
do not begin with a letter or a hyphen belong to a repetition. -/
def wordLook? (f : Flags) (s : List Char) : Option (Look × List Char) :=
  let basic := !f.unicode
  let isNameSign (c : Char) : Bool := c == '-' || c.isAlpha
  match s with
  | '{' :: inside =>
    match f.skip inside with
    | [] => none
    | c :: rest =>
      if isNameSign c then
        match f.takeAll isNameSign (c :: rest) with
        | (name, '}' :: rest) =>
          match String.ofList name with
          | "start" => some (.wordStart basic, rest)
          | "end" => some (.wordEnd basic, rest)
          | "start-half" => some (.wordStartHalf basic, rest)
          | "end-half" => some (.wordEndHalf basic, rest)
          | _ => none
        | _ => none
      else some (.wordBoundary basic, s)
  | _ => some (.wordBoundary basic, s)

/-- Whether a sign stands for itself behind a backslash: a basic character that is no letter, no
digit and no angle. -/
def isEscapable (c : Char) : Bool := c.toNat < 128 && !c.isAlphanum && c != '<' && c != '>'

/-- Reads an escape behind its backslash. -/
def escape? (f : Flags) : List Char → Option (Escape × List Char)
  | [] => none
  | c :: rest =>
    let basic := !f.unicode
    match c with
    | 'x' => (hexEscape? f 2 rest).map fun (c, byte, rest) => (.char c byte, rest)
    | 'u' => (hexEscape? f 4 rest).map fun (c, _, rest) => (.char c false, rest)
    | 'U' => (hexEscape? f 8 rest).map fun (c, _, rest) => (.char c false, rest)
    | 'p' => (classEscape? f false rest).map fun (s, rest) => (.set s, rest)
    | 'P' => (classEscape? f true rest).map fun (s, rest) => (.set s, rest)
    | 'a' => some (.char '\x07' false, rest)
    | 'f' => some (.char '\x0c' false, rest)
    | 't' => some (.char '\t' false, rest)
    | 'n' => some (.char '\n' false, rest)
    | 'r' => some (.char '\r' false, rest)
    | 'v' => some (.char '\x0b' false, rest)
    | 'A' => some (.look .textStart, rest)
    | 'z' => some (.look .textEnd, rest)
    | 'b' => (wordLook? f rest).map fun (l, rest) => (.look l, rest)
    | 'B' => some (.look (.noWordBoundary basic), rest)
    | '<' => some (.look (.wordStart basic), rest)
    | '>' => some (.look (.wordEnd basic), rest)
    | c =>
      if isEscapable c then some (.char c false, rest)
      else (shorthand? f c).map fun s => (.set s, rest)

end Planwright.Pattern
