import Planwright.Pattern.FoldTable
import Planwright.Text.CodeRange

set_option autoImplicit false

/-!
# Sets of characters

A set of characters is a list of intervals of code points in rising order, no two of which touch.
The operations below keep this form.
-/

namespace Planwright.Pattern

open Planwright.Text

/-- A set of characters. -/
structure CharSet where
  ranges : List CodeRange
  deriving DecidableEq, Repr, Inhabited

namespace CharSet

/-- The greatest code point. -/
def maxCode : Nat := 0x10FFFF

/-- Joins touching neighbours of intervals that begin in rising order. -/
def joinSorted : List CodeRange → List CodeRange
  | [] => []
  | [r] => [r]
  | r :: s :: rest =>
    if s.first ≤ r.last + 1 then joinSorted (⟨r.first, max r.last s.last⟩ :: rest)
    else r :: joinSorted (s :: rest)
termination_by rs => rs.length

/-- The set of the characters in some intervals, in any order. -/
def ofRanges (rs : List CodeRange) : CharSet :=
  ⟨joinSorted (rs.mergeSort fun a b => a.first ≤ b.first)⟩

/-- The empty set. -/
def empty : CharSet := ⟨[]⟩

/-- The set of one code point. -/
def single (c : Nat) : CharSet := ⟨[⟨c, c⟩]⟩

/-- The code points from one to another. -/
def interval (first last : Nat) : CharSet := ⟨[⟨first, last⟩]⟩

/-- Whether a code point belongs to the set. -/
def holdsCode (s : CharSet) (c : Nat) : Bool := s.ranges.any (·.holds c)

/-- Whether a character belongs to the set. -/
def holds (s : CharSet) (c : Char) : Bool := s.holdsCode c.toNat

/-- The characters of either set. -/
def union (s t : CharSet) : CharSet := ofRanges (s.ranges ++ t.ranges)

/-- The gaps between intervals in rising order, from a code point on, up to a greatest one. -/
def gaps (last : Nat) (start : Nat) : List CodeRange → List CodeRange
  | [] => if start ≤ last then [⟨start, last⟩] else []
  | r :: rest =>
    if start < r.first then ⟨start, r.first - 1⟩ :: gaps last (r.last + 1) rest
    else gaps last (r.last + 1) rest

/-- The code points up to a greatest one that are not in the set. -/
def complementUpTo (last : Nat) (s : CharSet) : CharSet := ⟨gaps last 0 s.ranges⟩

/-- The characters that are not in the set. -/
def complement (s : CharSet) : CharSet := s.complementUpTo maxCode

/-- The characters of both sets. -/
def inter (s t : CharSet) : CharSet := (s.complement.union t.complement).complement

/-- The characters of the first set that are not in the second. -/
def diff (s t : CharSet) : CharSet := s.inter t.complement

/-- The characters of exactly one of the sets. -/
def symmDiff (s t : CharSet) : CharSet := (s.union t).diff (s.inter t)

/-- Whether all characters are basic ones. -/
def isBasic (s : CharSet) : Bool := s.ranges.all (·.last < 128)

/-! ## Case -/

/-- Simple case folding as pairs of a code point and its image. -/
def foldPairs : List (Nat × Nat) :=
  foldSpans.flatMap fun s =>
    ((List.range ((s.last - s.first) / s.step + 1)).map fun i =>
      let c := s.first + i * s.step
      (c, s.image c))

/-- The set with all characters that differ from one in it by case only. -/
def closeCase (s : CharSet) : CharSet :=
  let images := (foldPairs.filter fun p => s.holdsCode p.1).map fun p => single p.2
  let folded := s.union (ofRanges (images.flatMap (·.ranges)))
  let originals := (foldPairs.filter fun p => folded.holdsCode p.2).map fun p =>
    CodeRange.mk p.1 p.1
  folded.union (ofRanges originals)

/-- The set with both cases of its basic letters. -/
def closeBasicCase (s : CharSet) : CharSet :=
  let lower := (s.inter (interval 65 90)).ranges.map fun r =>
    CodeRange.mk (r.first + 32) (r.last + 32)
  let upper := (s.inter (interval 97 122)).ranges.map fun r =>
    CodeRange.mk (r.first - 32) (r.last - 32)
  ofRanges (s.ranges ++ lower ++ upper)

end CharSet

end Planwright.Pattern
