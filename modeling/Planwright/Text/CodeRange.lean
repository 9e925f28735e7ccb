set_option autoImplicit false

/-!
# Sets of code points as lists of intervals

Character properties are given as lists of closed intervals of code points.  Membership is a
search through the list.
-/

namespace Planwright.Text

/-- The code points from `first` to `last`, both included. -/
structure CodeRange where
  first : Nat
  last : Nat
  deriving DecidableEq, Repr, Inhabited

namespace CodeRange

/-- Whether the interval holds this code point. -/
def holds (r : CodeRange) (c : Nat) : Bool := r.first <= c && c <= r.last

theorem holds_iff {r : CodeRange} {c : Nat} :
    r.holds c = true ↔ r.first ≤ c ∧ c ≤ r.last := by
  simp [holds]

end CodeRange

/-- Whether some interval of the list holds the character. -/
def inRanges (rs : List CodeRange) (c : Char) : Bool := rs.any (·.holds c.toNat)

theorem inRanges_iff {rs : List CodeRange} {c : Char} :
    inRanges rs c = true ↔ ∃ r ∈ rs, r.first ≤ c.toNat ∧ c.toNat ≤ r.last := by
  simp [inRanges, CodeRange.holds_iff]

end Planwright.Text
