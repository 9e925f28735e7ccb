import Planwright.Double.Binary

set_option autoImplicit false

/-!
# Two decimal places

Fixed-place text rounds the exact binary value to hundredths; a value halfway between two
hundredths goes to the even one.  Grouped text also puts a comma between every three digits of
the whole part.
-/

namespace Planwright.Double

/-- The nearest natural number to `num / den`, a half going to the even neighbour. -/
def roundDiv (num den : Nat) : Nat :=
  let q := num / den
  let r := num % den
  if 2 * r < den then q
  else if den < 2 * r then q + 1
  else if q % 2 = 0 then q else q + 1

/-- `roundDiv` is within half a unit of the quotient. -/
theorem roundDiv_near (num den : Nat) (h : 0 < den) :
    2 * (roundDiv num den * den) ≤ 2 * num + den ∧
      2 * num ≤ 2 * (roundDiv num den * den) + den := by
  have hq := Nat.div_add_mod num den
  have hr := Nat.mod_lt num h
  have hs : (num / den + 1) * den = den * (num / den) + den := by
    rw [Nat.add_mul, Nat.one_mul, Nat.mul_comm]
  have hp : num / den * den = den * (num / den) := Nat.mul_comm _ _
  simp only [roundDiv]
  split
  · omega
  · split
    · omega
    · split <;> omega

/-- How many hundredths the value `m * 2 ^ e` rounds to. -/
def hundredths (m : Nat) (e : Int) : Nat :=
  roundDiv ((m <<< e.toNat) * 100) (1 <<< (-e).toNat)

/-- The two digits of a number below one hundred. -/
def twoDigits (n : Nat) : List Char := [Nat.digitChar (n / 10 % 10), Nat.digitChar (n % 10)]

/-- A number of hundredths as whole part and two places. -/
def fixedOf (h : Nat) : List Char := Nat.toDigits 10 (h / 100) ++ '.' :: twoDigits (h % 100)

/-- The size of a double with two places, its sign put aside. -/
def fixedSize (x : Float) : List Char :=
  match (parts x).magnitude with
  | .nan => "NaN".toList
  | .infinite => "inf".toList
  | .finite m e => fixedOf (hundredths m e)

/-- A double with two places.  The sign of a negative zero is kept, that of "not a number" is
not. -/
def fixed (x : Float) : List Char :=
  let p := parts x
  if p.negative && p.magnitude != .nan then '-' :: fixedSize x else fixedSize x

/-- Puts a comma after every digit, the last excepted, that a multiple of three digits follows. -/
def groupDigits : List Char → List Char
  | [] => []
  | c :: rest =>
    if rest.length % 3 = 0 && !rest.isEmpty then c :: ',' :: groupDigits rest
    else c :: groupDigits rest

end Planwright.Double
