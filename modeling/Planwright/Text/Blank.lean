import Planwright.Text.CodeRange

set_option autoImplicit false

/-!
# Blank characters

A character is blank when it has the Unicode property `White_Space`; trimming removes blanks
from both ends of a text and nothing else.
-/

namespace Planwright.Text

/-- The property `White_Space`: twenty-five code points. -/
def blankRanges : List CodeRange := [
  ⟨0x9, 0xD⟩, ⟨0x20, 0x20⟩, ⟨0x85, 0x85⟩, ⟨0xA0, 0xA0⟩, ⟨0x1680, 0x1680⟩, ⟨0x2000, 0x200A⟩,
  ⟨0x2028, 0x2029⟩, ⟨0x202F, 0x202F⟩, ⟨0x205F, 0x205F⟩, ⟨0x3000, 0x3000⟩]

/-- Whether the character is white space. -/
def isBlank (c : Char) : Bool := inRanges blankRanges c

/-- The text without its leading blanks. -/
def trimStart (s : List Char) : List Char := s.dropWhile isBlank

/-- The text without its leading and trailing blanks. -/
def trim (s : List Char) : List Char := (trimStart (trimStart s).reverse).reverse

@[simp] theorem trim_nil : trim [] = [] := rfl

/-- The text of a string without its leading and trailing blanks. -/
def trimString (s : String) : String := String.ofList (trim s.toList)

end Planwright.Text
