import Planwright.Pattern.Bracket

set_option autoImplicit false

/-!
# Reading patterns

A body is a choice of branches between upright lines, a branch is a row of pieces, and a piece is a
sign, a class, an escape or a group with its repetitions behind it.  A group holds a body one level
down, so a reader of bodies is put together from the reader for one level less.

A pattern that is nested too deeply or would grow too large when its repetitions are written out is
refused.
-/

namespace Planwright.Pattern

open Planwright.Text

/-- How deeply the writing of a pattern may be nested. -/
def maxDepth : Nat := 250

/-- How much a pattern may weigh. -/
def maxWeight : Nat := 10 <<< 20

/-- The least number that no count of a repetition reaches. -/
def countLimit : Nat := 1 <<< 32

/-- A part of a pattern as it was read. -/
structure Piece where
  pattern : Pattern Leaf
  /-- How deeply its writing is nested. -/
  depth : Nat := 0
  /-- Whether a repetition may follow; none may follow a change of flags. -/
  repeatable : Bool := true
  deriving Repr

/-- What has been read of a body: the flags that hold, the names of groups so far, the finished
branches and the pieces of the open one, last first. -/
structure Progress where
  flags : Flags
  names : List (List Char)
  branches : List Piece := []
  pieces : List Piece := []

namespace Progress

/-- Adds a piece to the open branch. -/
def add (p : Progress) (piece : Piece) : Progress := { p with pieces := piece :: p.pieces }

/-- One or no piece, or several joined one level up. -/
def joined (join : List (Pattern Leaf) → Pattern Leaf) (lastFirst : List Piece) : Piece :=
  match lastFirst with
  | [piece] => piece
  | pieces =>
    { pattern := join (pieces.reverse.map (·.pattern))
      depth := if pieces.isEmpty then 0 else (pieces.map (·.depth)).foldl max 0 + 1 }

/-- Finishes the open branch and opens another. -/
def branch (p : Progress) : Progress :=
  { p with branches := joined seqAll p.pieces :: p.branches, pieces := [] }

/-- All that has been read. -/
def body (p : Progress) : Piece := joined altAll p.branch.branches

/-- Repeats the last piece, if it may be repeated. -/
def repeatLast? (p : Progress) (least : Nat) (most : Option Nat) : Option Progress :=
  match p.pieces with
  | [] => none
  | piece :: rest =>
    if piece.repeatable then
      some { p with pieces := ⟨.repeated piece.pattern least most, piece.depth + 1, true⟩ :: rest }
    else none

end Progress

/-- Reads a body: the pieces up to an unmatched closing parenthesis or the end, and the names of
groups up to there. -/
abbrev BodyReader : Type :=
  Flags → List (List Char) → List Char → Option (Piece × List (List Char) × List Char)

/-! ## Signs -/

/-- The piece of one character. -/
def charPiece (f : Flags) (c : Char) : Piece :=
  let s := CharSet.single c.toNat
  ⟨.leaf (.one (if f.unicode || c.toNat < 128 then f.fold s else s)), 0, true⟩

/-- The piece of one condition on a place. -/
def lookPiece (l : Look) : Piece := ⟨.leaf (.look l), 0, true⟩

/-- The set that a full stop stands for. -/
def anyChar (f : Flags) : CharSet :=
  if f.dotAll then .interval 0 CharSet.maxCode
  else if f.returns then CharSet.complement ⟨[⟨10, 10⟩, ⟨13, 13⟩]⟩
  else CharSet.complement ⟨[⟨10, 10⟩]⟩

/-- The condition of a circumflex. -/
def startLook (f : Flags) : Look :=
  if f.multiLine then if f.returns then .returnLineStart else .lineStart else .textStart

/-- The condition of a dollar sign. -/
def endLook (f : Flags) : Look :=
  if f.multiLine then if f.returns then .returnLineEnd else .lineEnd else .textEnd

/-- Reads a piece that is neither a group nor a repetition. -/
def sign? (f : Flags) : List Char → Option (Piece × List Char)
  | [] => none
  | '\\' :: rest =>
    match escape? f rest with
    | some (.char c byte, rest) =>
      if byte && !f.unicode && 128 ≤ c.toNat then none else some (charPiece f c, rest)
    | some (.set s, rest) => some (⟨.leaf (.one s), 0, true⟩, rest)
    | some (.look l, rest) => some (lookPiece l, rest)
    | none => none
  | '[' :: rest =>
    (class? f rest).map fun (n, rest) => (⟨.leaf (.one n.set), n.depth, true⟩, rest)
  | '.' :: rest => if f.unicode then some (⟨.leaf (.one (anyChar f)), 0, true⟩, rest) else none
  | '^' :: rest => some (lookPiece (startLook f), rest)
  | '$' :: rest => some (lookPiece (endLook f), rest)
  | c :: rest => some (charPiece f c, rest)

/-! ## Repetitions -/

/-- Skips the sign that makes a repetition prefer few times; it finds the same texts. -/
def skipLazy : List Char → List Char
  | '?' :: rest => rest
  | s => s

/-- Reads a count of a repetition, with blanks around it. -/
def count? (f : Flags) (s : List Char) : Option (Nat × List Char) :=
  match f.takeAll Char.isDigit (s.dropWhile isBlank) with
  | ([], _) => none
  | (digits, rest) =>
    let n := digits.foldl (fun n c => 10 * n + (c.toNat - '0'.toNat)) 0
    if n < countLimit then some (n, rest.dropWhile isBlank) else none

/-- Reads the counts of a repetition behind its brace: one, the least, or the least and the most
of them. -/
def counts? (f : Flags) (s : List Char) : Option (Nat × Option Nat × List Char) :=
  match count? f (f.skip s) with
  | none => none
  | some (least, rest) =>
    match rest with
    | '}' :: rest => some (least, some least, rest)
    | ',' :: rest =>
      match f.skip rest with
      | '}' :: rest => some (least, none, rest)
      | rest =>
        match count? f rest with
        | some (most, '}' :: rest) =>
          if least ≤ most then some (least, some most, rest) else none
        | _ => none
    | _ => none

/-! ## Groups -/

/-- Characters of letters. -/
def letters : CharSet := (property? "alphabetic").getD .empty

/-- Characters of numbers. -/
def numbers : CharSet := categoryGroup 'n'

/-- Whether a text may name a group: a letter or a low line, then letters, numbers, low lines, full
stops and brackets. -/
def isGroupName : List Char → Bool
  | [] => false
  | c :: rest =>
    (c == '_' || letters.holds c) &&
      rest.all fun c => c == '_' || c == '.' || c == '[' || c == ']' || letters.holds c
        || numbers.holds c

/-- Reads the inside of a group, one level down, with its closing parenthesis. -/
def inside? (deeper : Option BodyReader) (p : Progress) (f : Flags) (names : List (List Char))
    (s : List Char) : Option (Progress × List Char) :=
  match deeper with
  | none => none
  | some body =>
    match body f names s with
    | some (piece, names, ')' :: rest) =>
      some
        (({ p with names := names }).add
          { piece with depth := piece.depth + 1, repeatable := true }, rest)
    | _ => none

/-- Reads a group with a name, behind the angle. -/
def namedGroup? (deeper : Option BodyReader) (p : Progress) (s : List Char) :
    Option (Progress × List Char) :=
  match cutAt '>' s with
  | some (name, rest) =>
    if isGroupName name && !p.names.contains name then
      inside? deeper p p.flags (name :: p.names) rest
    else none
  | none => none

/-- Reads a group behind its opening parenthesis.  There are no groups that look ahead or
behind. -/
def group? (deeper : Option BodyReader) (p : Progress) (s : List Char) :
    Option (Progress × List Char) :=
  match p.flags.skip s with
  | '?' :: '=' :: _ => none
  | '?' :: '!' :: _ => none
  | '?' :: '<' :: '=' :: _ => none
  | '?' :: '<' :: '!' :: _ => none
  | '?' :: 'P' :: '<' :: rest => namedGroup? deeper p rest
  | '?' :: '<' :: rest => namedGroup? deeper p rest
  | '?' :: ')' :: _ => none
  | '?' :: rest =>
    match p.flags.read? true [] rest with
    | some (f, ')' :: rest) =>
      some (({ p with flags := f }).add { pattern := .empty, repeatable := false }, rest)
    | some (f, ':' :: rest) => inside? deeper p f p.names rest
    | _ => none
  | rest => inside? deeper p p.flags p.names rest

/-! ## Bodies -/

/-- Reads a body on from what has been read of it.  Each recursion takes at least one sign. -/
def bodyFrom? (deeper : Option BodyReader) :
    Nat → Progress → List Char → Option (Piece × List (List Char) × List Char)
  | 0, _, _ => none
  | fuel + 1, p, s =>
    match p.flags.skip s with
    | [] => some (p.body, p.names, [])
    | ')' :: rest => some (p.body, p.names, ')' :: rest)
    | '|' :: rest => bodyFrom? deeper fuel p.branch rest
    | '(' :: rest => (group? deeper p rest).bind fun (p, rest) => bodyFrom? deeper fuel p rest
    | '?' :: rest =>
      (p.repeatLast? 0 (some 1)).bind fun p => bodyFrom? deeper fuel p (skipLazy rest)
    | '*' :: rest => (p.repeatLast? 0 none).bind fun p => bodyFrom? deeper fuel p (skipLazy rest)
    | '+' :: rest => (p.repeatLast? 1 none).bind fun p => bodyFrom? deeper fuel p (skipLazy rest)
    | '{' :: rest =>
      match counts? p.flags rest with
      | none => none
      | some (least, most, rest) =>
        (p.repeatLast? least most).bind fun q =>
          bodyFrom? deeper fuel q (skipLazy (p.flags.skip rest))
    | s => (sign? p.flags s).bind fun (piece, rest) => bodyFrom? deeper fuel (p.add piece) rest

/-- Reads a body from the reader for one level less. -/
def bodyOver (deeper : Option BodyReader) : BodyReader := fun f names s =>
  bodyFrom? deeper (s.length + 1) { flags := f, names := names } s

/-- Reads a body with groups on at most so many levels. -/
def bodyWithin : Nat → BodyReader
  | 0 => bodyOver none
  | levels + 1 => bodyOver (some (bodyWithin levels))

/-- Reads a pattern from its text; letters of either case are the same at the beginning. -/
def parse? (source : String) : Option (Pattern Leaf) :=
  match bodyWithin maxDepth {} [] source.toList with
  | some (piece, _, []) =>
    if piece.depth ≤ maxDepth && piece.pattern.weight ≤ maxWeight then some piece.pattern else none
  | _ => none

end Planwright.Pattern
