import Planwright.Pattern.Escape

set_option autoImplicit false

/-!
# Bracketed classes

A class lists characters, ranges, escapes and further classes between brackets; `&&`, `--` and
`~~` take the intersection, the difference and the symmetric difference of what stands on their
two sides, from left to right.
-/

namespace Planwright.Pattern

open Planwright.Text

/-- An operation on classes. -/
inductive ClassOp where
  | both
  | minus
  | either
  deriving DecidableEq, Repr

/-- The operation applied to two sets, which are folded first. -/
def ClassOp.apply (f : Flags) (s t : CharSet) : ClassOp → CharSet
  | .both => (f.fold s).inter (f.fold t)
  | .minus => (f.fold s).diff (f.fold t)
  | .either => (f.fold s).symmDiff (f.fold t)

/-- A set and how deeply its writing is nested. -/
structure Nested where
  set : CharSet
  depth : Nat
  deriving Repr

/-- What has been read of a class: whether it is negated, the operand and operation on the left,
and the items since then, last first. -/
structure ClassProgress where
  negated : Bool
  left : Option (Nested × ClassOp) := none
  items : List Nested := []

namespace ClassProgress

/-- The items as one set.  Two or more of them open a level of nesting. -/
def union (p : ClassProgress) : Nested :=
  let depth := (p.items.map (·.depth)).foldl max 0
  ⟨.ofRanges (p.items.flatMap (·.set.ranges)), if 1 < p.items.length then depth + 1 else depth⟩

/-- All that has been read as one set. -/
def value (f : Flags) (p : ClassProgress) : Nested :=
  match p.left with
  | none => p.union
  | some (s, o) =>
    let t := p.union
    ⟨o.apply f s.set t.set, max s.depth t.depth + 1⟩

/-- Takes all that has been read as the left operand of an operation. -/
def operate (f : Flags) (p : ClassProgress) (o : ClassOp) : ClassProgress :=
  { p with left := some (p.value f, o), items := [] }

/-- Adds an item, if its characters are allowed. -/
def add? (f : Flags) (p : ClassProgress) (n : Nested) : Option ClassProgress :=
  if f.unicode || n.set.isBasic then some { p with items := n :: p.items } else none

end ClassProgress

/-- Reads the beginning of a class behind its bracket: a circumflex that negates it, then hyphens
or one closing bracket that stand for themselves. -/
def openClass? (f : Flags) (s : List Char) : Option (ClassProgress × List Char) :=
  let (negated, s) :=
    match f.skip s with
    | '^' :: rest => (true, f.skip rest)
    | s => (false, s)
  let (hyphens, s) := f.takeAll (· == '-') s
  let items := hyphens.map fun _ => Nested.mk (.single '-'.toNat) 0
  match items, s with
  | [], ']' :: rest => some (⟨negated, none, [⟨.single ']'.toNat, 0⟩]⟩, f.skip rest)
  | _, s => some (⟨negated, none, items⟩, s)

/-- Reads a named set of basic characters, such as `[:alpha:]` or `[:^alpha:]`, behind its
bracket: the set, whether it is negated, and the rest. -/
def basicClass? (s : List Char) : Option (CharSet × Bool × List Char) :=
  match s with
  | ':' :: rest =>
    let (negated, rest) :=
      match rest with
      | '^' :: rest => (true, rest)
      | rest => (false, rest)
    match cutAt ':' rest with
    | some (name, ']' :: rest) =>
      (basicSets.lookup (String.ofList name)).map fun s => (s, negated, rest)
    | _ => none
  | _ => none

/-- Reads one item of a class: a character, or an escape. -/
def classItem? (f : Flags) : List Char → Option (Escape × List Char)
  | [] => none
  | '\\' :: rest => escape? f rest
  | c :: rest => some (.char c false, rest)

/-- The sign behind the first one.  In extended writing it is the first that is neither blank nor
the sign of a comment. -/
def signBehind? (f : Flags) : List Char → Option Char
  | [] => none
  | _ :: rest =>
    if f.extended then
      match rest.dropWhile isBlank with
      | '#' :: s => (s.dropWhile isBlank).head?.or rest.head?
      | s => s.head?.or rest.head?
    else rest.head?

/-- Reads an item of a class, or a range between two characters. -/
def classRange? (f : Flags) (s : List Char) : Option (CharSet × List Char) :=
  match classItem? f s with
  | none => none
  | some (first, rest) =>
    match f.skip rest with
    | [] => none
    | c :: rest =>
      let next := signBehind? f (c :: rest)
      if c != '-' || next == some ']' || next == some '-' then
        match first with
        | .char a _ => some (.single a.toNat, c :: rest)
        | .set s => some (s, c :: rest)
        | .look _ => none
      else
        match first, classItem? f (f.skip rest) with
        | .char a _, some (.char b _, rest) =>
          if a ≤ b then some (.interval a.toNat b.toNat, rest) else none
        | _, _ => none

/-- Reads a class up to its closing bracket.  Each recursion takes at least one sign. -/
def classFrom? (f : Flags) : Nat → ClassProgress → List Char → Option (Nested × List Char)
  | 0, _, _ => none
  | fuel + 1, p, s =>
    match f.skip s with
    | [] => none
    | ']' :: rest =>
      let n := p.value f
      (f.finish? p.negated n.set).map fun s => (⟨s, n.depth + 1⟩, rest)
    | '[' :: rest =>
      match basicClass? rest with
      | some (s, negated, rest) =>
        ((f.finish? negated s).bind fun s => p.add? f ⟨s, 0⟩).bind fun p =>
          classFrom? f fuel p rest
      | none =>
        match (openClass? f rest).bind fun (q, rest) => classFrom? f fuel q rest with
        | none => none
        | some (n, rest) => (p.add? f n).bind fun p => classFrom? f fuel p rest
    | '&' :: '&' :: rest => classFrom? f fuel (p.operate f .both) rest
    | '-' :: '-' :: rest => classFrom? f fuel (p.operate f .minus) rest
    | '~' :: '~' :: rest => classFrom? f fuel (p.operate f .either) rest
    | s =>
      match classRange? f s with
      | none => none
      | some (s, rest) => (p.add? f ⟨s, 0⟩).bind fun p => classFrom? f fuel p rest

/-- Reads a class behind its opening bracket. -/
def class? (f : Flags) (s : List Char) : Option (Nested × List Char) :=
  (openClass? f s).bind fun (p, rest) => classFrom? f (rest.length + 1) p rest

end Planwright.Pattern
