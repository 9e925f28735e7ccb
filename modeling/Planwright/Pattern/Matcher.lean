import Planwright.Pattern.Basic

set_option autoImplicit false

/-!
# Matching

A text of `n` characters has the places `0`, …, `n`, and a set of places is a number whose bit `i`
says whether place `i` belongs to it.  A pattern takes each set of places to the set of all places
at which it may end when it begins in the set.  It occurs in the text if it ends anywhere at all,
having begun anywhere.

All operations distribute over unions of sets, so a set is followed as a whole, without trying one
place after the other and without going back.
-/

namespace Planwright.Pattern

/-- What a leaf does in one text: from the places in `from_` it goes on by `width`. -/
structure Move where
  from_ : Nat
  width : Nat
  deriving DecidableEq, Repr

/-- The number whose lowest bit is given, and the others by a number. -/
def withBit (b : Bool) (rest : Nat) : Nat := b.toNat + 2 * rest

/-- The places before which a character with some property stands. -/
def placesOf (p : Char → Bool) : List Char → Nat
  | [] => 0
  | c :: rest => withBit (p c) (placesOf p rest)

/-- The places at which a condition holds, in a text that follows `before`. -/
def placesWhere (l : Look) (before : Option Char) : List Char → Nat
  | [] => withBit (l.holds before none) 0
  | c :: rest => withBit (l.holds before (some c)) (placesWhere l (some c) rest)

/-- What a leaf does in a text. -/
def Leaf.move (text : List Char) : Leaf → Move
  | .one s => ⟨placesOf s.holds text, 1⟩
  | .look l => ⟨placesWhere l none text, 0⟩

/-- A function applied so many times, or until it changes nothing more. -/
def iterate (f : Nat → Nat) : Nat → Nat → Nat
  | 0, s => s
  | k + 1, s =>
    let t := f s
    if t == s then s else iterate f k t

/-- A set with all that a function reaches from it in so many steps, or until it grows no more. -/
def spread (f : Nat → Nat) (steps : Nat) (s : Nat) : Nat := iterate (fun s => s ||| f s) steps s

/-- The places at which the pattern may end if it begins in a set of places, in a text of `n`
characters.  A set of places is steady after `n + 1` repetitions at the latest. -/
def reach (n : Nat) : Pattern Move → Nat → Nat
  | empty, s => s
  | leaf m, s => (s &&& m.from_) <<< m.width
  | repeated p least most, s =>
    spread (reach n p) ((most.getD (least + n + 1)) - least)
      (iterate (reach n p) (min least (n + 1)) s)
  | seq p q, s => reach n q (reach n p s)
  | alt p q, s => reach n p s ||| reach n q s

/-- Whether the pattern occurs in a text. -/
def occursIn (p : Pattern Leaf) (text : String) : Bool :=
  let cs := text.toList
  reach cs.length (p.map (Leaf.move cs)) ((1 <<< (cs.length + 1)) - 1) != 0

end Planwright.Pattern
