import Planwright.Pattern.Property

set_option autoImplicit false

/-!
# Patterns

A pattern is built from leaves by sequence, choice and repetition.  A leaf either takes one
character of a set or looks at the two neighbours of a place.  The type is generic in its leaves,
so that a pattern can be prepared for one text (`Pattern.Matcher`) without losing its shape.
-/

namespace Planwright.Pattern

/-- A condition on a place between two characters.  The conditions on words come in two kinds: for
all characters, or for the basic ones only. -/
inductive Look where
  | textStart
  | textEnd
  | lineStart
  | lineEnd
  /-- As `lineStart`, where a carriage return ends a line as well, and so does the pair of both. -/
  | returnLineStart
  | returnLineEnd
  | wordBoundary (basic : Bool)
  | noWordBoundary (basic : Bool)
  | wordStart (basic : Bool)
  | wordEnd (basic : Bool)
  /-- No character of a word stands before. -/
  | wordStartHalf (basic : Bool)
  /-- No character of a word stands behind. -/
  | wordEndHalf (basic : Bool)
  deriving DecidableEq, Repr

namespace Look

/-- Whether there is a character and it belongs to words. -/
def inWord (basic : Bool) : Option Char → Bool
  | none => false
  | some c => (if basic then basicWordChars else wordChars).holds c

/-- Whether the condition holds between two neighbours, either of which may be missing. -/
def holds (before behind : Option Char) : Look → Bool
  | textStart => before.isNone
  | textEnd => behind.isNone
  | lineStart => before.isNone || before == some '\n'
  | lineEnd => behind.isNone || behind == some '\n'
  | returnLineStart =>
    before.isNone || before == some '\n' || (before == some '\r' && behind != some '\n')
  | returnLineEnd =>
    behind.isNone || behind == some '\r' || (behind == some '\n' && before != some '\r')
  | wordBoundary b => inWord b before != inWord b behind
  | noWordBoundary b => inWord b before == inWord b behind
  | wordStart b => !inWord b before && inWord b behind
  | wordEnd b => inWord b before && !inWord b behind
  | wordStartHalf b => !inWord b before
  | wordEndHalf b => !inWord b behind

end Look

/-- The smallest parts of a pattern. -/
inductive Leaf where
  /-- One character of the set. -/
  | one (set : CharSet)
  /-- A place with this condition. -/
  | look (l : Look)
  deriving DecidableEq, Repr

end Planwright.Pattern

namespace Planwright

/-- A pattern over leaves of some type. -/
inductive Pattern (α : Type) where
  /-- The empty text. -/
  | empty
  | leaf (a : α)
  /-- From `least` to `most` times in a row, without a bound if `most` is missing. -/
  | repeated (p : Pattern α) (least : Nat) (most : Option Nat)
  | seq (p q : Pattern α)
  | alt (p q : Pattern α)
  deriving DecidableEq, Repr

namespace Pattern

/-- The pattern with each leaf replaced by its image. -/
def map {α β : Type} (f : α → β) : Pattern α → Pattern β
  | empty => empty
  | leaf a => leaf (f a)
  | repeated p least most => repeated (p.map f) least most
  | seq p q => seq (p.map f) (q.map f)
  | alt p q => alt (p.map f) (q.map f)

/-- Patterns one after the other. -/
def seqAll {α : Type} : List (Pattern α) → Pattern α
  | [] => empty
  | [p] => p
  | p :: ps => seq p (seqAll ps)

/-- A choice among patterns. -/
def altAll {α : Type} : List (Pattern α) → Pattern α
  | [] => empty
  | [p] => p
  | p :: ps => alt p (altAll ps)

/-- The weight of a leaf: a set weighs with the number of its intervals. -/
def Leaf.weight : Leaf → Nat
  | .one s => if s.isBasic then 48 else 64 * max 1 s.ranges.length
  | .look _ => 48

/-- The weight of a pattern with all repetitions written out. -/
def weight : Pattern Leaf → Nat
  | empty => 48
  | leaf a => a.weight
  | repeated p least none => 48 + max 1 least * p.weight
  | repeated p _ (some most) => 48 + most * (p.weight + 48)
  | seq p q => p.weight + q.weight
  | alt p q => 48 + p.weight + q.weight

end Pattern

end Planwright
