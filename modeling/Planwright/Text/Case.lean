import Planwright.Text.CaseTable

set_option autoImplicit false

/-!
# Upper and lower case

Full case mapping of text.  A character's image may be several characters; apart from one
rule it does not depend on the text around it.  The exception is the capital sigma, which
becomes the final form `ς` at the end of a word: when, blanking out characters that case
ignores, a cased letter stands before it and none stands after it.
-/

namespace Planwright.Text

/-- The image of a character under a table of spans and a table of expansions. -/
def caseImage (expansions : List (Nat × List Nat)) (spans : List CaseSpan) (c : Char) :
    List Char :=
  match expansions.find? (·.1 == c.toNat) with
  | some (_, images) => images.map Char.ofNat
  | none =>
    match spans.find? (·.holds c.toNat) with
    | some s => [Char.ofNat (s.image c.toNat)]
    | none => [c]

/-- The lower-case image of a character that stands alone. -/
def lowerChar (c : Char) : List Char := caseImage lowerExpansions lowerSpans c

/-- The upper-case image of a character. -/
def upperChar (c : Char) : List Char := caseImage upperExpansions upperSpans c

/-- The property `Cased`. -/
def isCased (c : Char) : Bool := inRanges casedRanges c

/-- The property `Case_Ignorable`. -/
def isCaseIgnorable (c : Char) : Bool := inRanges caseIgnorableRanges c

/-- Whether the first character that case does not ignore is cased. -/
def meetsCased (s : List Char) : Bool :=
  match s.dropWhile isCaseIgnorable with
  | [] => false
  | c :: _ => isCased c

/-- The lower case of a capital sigma between the text `before` it, read backwards, and the
text `after` it. -/
def lowerSigma (before after : List Char) : Char :=
  if meetsCased before && !meetsCased after then 'ς' else 'σ'

/-- Lower case of a text that follows `before`, which is given backwards. -/
def lowerAfter (before : List Char) : List Char → List Char
  | [] => []
  | c :: rest =>
    if c = 'Σ' then lowerSigma before rest :: lowerAfter (c :: before) rest
    else lowerChar c ++ lowerAfter (c :: before) rest

/-- Lower case of a text. -/
def lower (s : List Char) : List Char := lowerAfter [] s

/-- Upper case of a text. -/
def upper (s : List Char) : List Char := s.flatMap upperChar

/-- Upper case acts character by character. -/
@[simp] theorem upper_append (a b : List Char) : upper (a ++ b) = upper a ++ upper b := by
  simp [upper]

/-- Lower case of a string. -/
def lowerString (s : String) : String := String.ofList (lower s.toList)

/-- Upper case of a string. -/
def upperString (s : String) : String := String.ofList (upper s.toList)

/-! ## The basic Latin letters alone -/

/-- Lower case of the letters `A` to `Z`; every other character is kept. -/
def lowerBasic (c : Char) : Char :=
  if 'A' ≤ c ∧ c ≤ 'Z' then Char.ofNat (c.toNat + 32) else c

/-- Upper case of the letters `a` to `z`; every other character is kept. -/
def upperBasic (c : Char) : Char :=
  if 'a' ≤ c ∧ c ≤ 'z' then Char.ofNat (c.toNat - 32) else c

/-- Whether two texts differ at most in the case of basic Latin letters. -/
def equalIgnoringBasicCase (a b : List Char) : Bool := a.map lowerBasic == b.map lowerBasic

end Planwright.Text
