set_option autoImplicit false

/-!
# Text as bytes

The UTF-8 bytes of text, and two ways of writing bytes with plain characters: percent-encoding,
which keeps letters, digits and `- _ . ~` and writes every other byte as `%XX`, and base 64 with
padding.
-/

namespace Planwright.Text

/-- The UTF-8 bytes of a character. -/
def charBytes (c : Char) : List Nat :=
  let n := c.toNat
  if n < 0x80 then [n]
  else if n < 0x800 then [0xC0 + n / 0x40, 0x80 + n % 0x40]
  else if n < 0x10000 then [0xE0 + n / 0x1000, 0x80 + n / 0x40 % 0x40, 0x80 + n % 0x40]
  else [0xF0 + n / 0x40000, 0x80 + n / 0x1000 % 0x40, 0x80 + n / 0x40 % 0x40, 0x80 + n % 0x40]

/-- The UTF-8 bytes of a text. -/
def bytes (s : List Char) : List Nat := s.flatMap charBytes

/-- How many UTF-8 bytes a text has. -/
def byteLength (s : List Char) : Nat := (bytes s).length

/-! ## Percent-encoding -/

/-- The characters that are kept: basic letters, digits and `- _ . ~`. -/
def isUnreserved (c : Char) : Bool :=
  ('a' ≤ c && c ≤ 'z') || ('A' ≤ c && c ≤ 'Z') || ('0' ≤ c && c ≤ '9')
    || c == '-' || c == '_' || c == '.' || c == '~'

/-- The upper-case hexadecimal digit of a number below sixteen. -/
def upperHexDigit (n : Nat) : Char := if n < 10 then Char.ofNat (48 + n) else Char.ofNat (55 + n)

/-- A byte written as a percent sign and two digits. -/
def percentByte (b : Nat) : List Char := ['%', upperHexDigit (b / 16), upperHexDigit (b % 16)]

/-- The encoding of a character. -/
def percentChar (c : Char) : List Char :=
  if isUnreserved c then [c] else (charBytes c).flatMap percentByte

/-- The percent-encoding of a text. -/
def percentEncode (s : List Char) : List Char := s.flatMap percentChar

@[simp] theorem percentEncode_append (a b : List Char) :
    percentEncode (a ++ b) = percentEncode a ++ percentEncode b := by
  simp [percentEncode]

/-! ## Base 64 -/

/-- The character for six bits. -/
def base64Digit (n : Nat) : Char :=
  if n < 26 then Char.ofNat (65 + n)
  else if n < 52 then Char.ofNat (97 + (n - 26))
  else if n < 62 then Char.ofNat (48 + (n - 52))
  else if n = 62 then '+'
  else '/'

/-- Writes bytes in base 64: three bytes as four characters, the last group padded with `=`. -/
def base64 : List Nat → List Char
  | [] => []
  | [a] => [base64Digit (a / 4), base64Digit (a % 4 * 16), '=', '=']
  | [a, b] =>
    [base64Digit (a / 4), base64Digit (a % 4 * 16 + b / 16), base64Digit (b % 16 * 4), '=']
  | a :: b :: c :: rest =>
    base64Digit (a / 4) :: base64Digit (a % 4 * 16 + b / 16)
      :: base64Digit (b % 16 * 4 + c / 64) :: base64Digit (c % 64) :: base64 rest

end Planwright.Text
