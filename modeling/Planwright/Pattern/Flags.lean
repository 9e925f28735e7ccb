import Planwright.Pattern.Basic
import Planwright.Text.Blank

set_option autoImplicit false

/-!
# Flags of a pattern

A flag is switched on or off by its letter in a group such as `(?i-u)`; it holds up to the end of
the enclosing group.  In extended writing, blanks and comments between the signs mean nothing.
-/

namespace Planwright.Pattern

open Planwright.Text

/-- What the signs of a pattern mean. -/
structure Flags where
  /-- `i`: letters that differ by case only are the same. -/
  ignoreCase : Bool := true
  /-- `m`: `^` and `$` stand at the ends of lines. -/
  multiLine : Bool := false
  /-- `s`: `.` takes line ends as well. -/
  dotAll : Bool := false
  /-- `u`: classes hold all characters, not only basic ones. -/
  unicode : Bool := true
  /-- `x`: blanks and comments mean nothing. -/
  extended : Bool := false
  /-- `R`: a carriage return ends a line as well. -/
  returns : Bool := false
  deriving DecidableEq, Repr, Inhabited

namespace Flags

/-- The flags with the one of a letter set.  `U` swaps two ways to look for the same texts and
changes nothing here. -/
def set? (f : Flags) (letter : Char) (on : Bool) : Option Flags :=
  match letter with
  | 'i' => some { f with ignoreCase := on }
  | 'm' => some { f with multiLine := on }
  | 's' => some { f with dotAll := on }
  | 'u' => some { f with unicode := on }
  | 'x' => some { f with extended := on }
  | 'R' => some { f with returns := on }
  | 'U' => some f
  | _ => none

/-- Reads letters of flags up to a colon or a closing parenthesis.  Each letter stands once, at
most one hyphen turns the letters behind it off, and it is not the last sign.  The rest begins
with the sign that ends the letters. -/
def read? (f : Flags) (on : Bool) (seen : List Char) : List Char → Option (Flags × List Char)
  | [] => none
  | c :: rest =>
    if c == ':' || c == ')' then
      if seen.head? == some '-' then none else some (f, c :: rest)
    else if seen.contains c then none
    else if c == '-' then read? f false (c :: seen) rest
    else
      match f.set? c on with
      | some f => read? f on (c :: seen) rest
      | none => none

end Flags

/-! ## Signs without meaning -/

/-- The rest from the first sign with a meaning on, inside or outside a comment. -/
def skipFrom (inComment : Bool) : List Char → List Char
  | [] => []
  | c :: rest =>
    if inComment then skipFrom (c != '\n') rest
    else if isBlank c then skipFrom false rest
    else if c == '#' then skipFrom true rest
    else c :: rest

/-- The rest from the first sign with a meaning on. -/
def Flags.skip (f : Flags) (s : List Char) : List Char :=
  if f.extended then skipFrom false s else s

/-- Reads signs with some property, at most so many, with signs without meaning between them. -/
def Flags.takeSome (f : Flags) (p : Char → Bool) : Nat → List Char → List Char × List Char
  | 0, s => ([], s)
  | k + 1, s =>
    match s with
    | c :: rest =>
      if p c then
        let (taken, rest) := f.takeSome p k (f.skip rest)
        (c :: taken, rest)
      else ([], s)
    | [] => ([], [])

/-- Reads all signs with some property, with signs without meaning between them. -/
def Flags.takeAll (f : Flags) (p : Char → Bool) (s : List Char) : List Char × List Char :=
  f.takeSome p s.length s

/-! ## Sets under flags -/

/-- The set closed under case, if case does not matter. -/
def Flags.fold (f : Flags) (s : CharSet) : CharSet :=
  if f.ignoreCase then if f.unicode then s.closeCase else s.closeBasicCase else s

/-- The set that a class stands for: folded, then negated if asked.  Where classes hold basic
characters only, no other set is allowed. -/
def Flags.finish? (f : Flags) (negated : Bool) (s : CharSet) : Option CharSet :=
  let s := if negated then (f.fold s).complement else f.fold s
  if f.unicode || s.isBasic then some s else none

end Planwright.Pattern
