import Planwright.Pattern.CharSet
import Planwright.Pattern.CategoryTable
import Planwright.Pattern.ScriptTable
import Planwright.Pattern.PropertyTable
import Planwright.Text.Search
import Planwright.Value.Reader

set_option autoImplicit false

/-!
# Named sets of characters

Sets that a pattern names: binary properties, general categories and scripts of the Unicode
character database, the shorthands for digits, blanks and word characters, and the named sets of
basic characters.  Names of properties are compared without regard to case, blanks, hyphens and
low lines, and a beginning `is` is dropped.
-/

namespace Planwright.Pattern

open Planwright.Text

/-- A hexadecimal number. -/
def hexNumber (s : List Char) : Nat :=
  s.foldl (fun n c => 16 * n + (Value.hexValue? c).getD 0) 0

/-- One interval of a table: one or two ends. -/
def tableRange (s : List Char) : CodeRange :=
  match cutAt '-' s with
  | some (a, b) => ⟨hexNumber a, hexNumber b⟩
  | none => ⟨hexNumber s, hexNumber s⟩

/-- The set that a table's text stands for: intervals between blanks or line ends. -/
def tableSet (text : String) : CharSet :=
  let words := (text.toList.map fun c => if c == '\n' then ' ' else c).splitOn ' '
  ⟨(words.filter (!·.isEmpty)).map tableRange⟩

/-- The entry of a table under a name. -/
def rangesUnder? (table : List (List String × String)) (name : String) : Option CharSet :=
  (table.find? fun e => e.1.contains name).map fun e => tableSet e.2

/-- The union of the entries of the general categories whose short names begin so. -/
def categoryGroup (letter : Char) : CharSet :=
  .ofRanges ((categoryTable.filter fun e =>
    e.1.any fun n => n.length == 2 && n.toList.head? == some letter).flatMap
      fun e => (tableSet e.2).ranges)

/-- Groups of general categories: names and the letter of the members' short names. -/
def categoryGroups : List (List String × Char) :=
  [(["c", "other"], 'c'), (["l", "letter"], 'l'), (["m", "mark", "combiningmark"], 'm'),
    (["n", "number"], 'n'), (["p", "punctuation", "punct"], 'p'), (["s", "symbol"], 's'),
    (["z", "separator"], 'z')]

/-- All code points that have a general category other than "unassigned". -/
def assigned : CharSet :=
  .ofRanges (categoryTable.flatMap fun e => (tableSet e.2).ranges)

/-- The set of a general category or of a group of them. -/
def category? (name : String) : Option CharSet :=
  match rangesUnder? categoryTable name with
  | some s => some s
  | none =>
    match categoryGroups.find? fun g => g.1.contains name with
    | some (_, 'c') => some ((categoryGroup 'c').union assigned.complement)
    | some (_, letter) => some (categoryGroup letter)
    | none =>
      if name == "any" then some (.interval 0 CharSet.maxCode)
      else if name == "assigned" then some assigned
      else if name == "ascii" then some (.interval 0 127)
      else if name == "cn" || name == "unassigned" then some assigned.complement
      else if name == "lc" || name == "casedletter" then
        some (.ofRanges (["lu", "ll", "lt"].flatMap fun n =>
          match rangesUnder? categoryTable n with
          | some s => s.ranges
          | none => []))
      else none

/-- The set of a binary property. -/
def property? (name : String) : Option CharSet :=
  rangesUnder? propertyTable name

/-- A property's name as it is compared. -/
def normalName (s : List Char) : String :=
  let isDropped (c : Char) : Bool := c == ' ' || c == '_' || c == '-' || 128 ≤ c.toNat
  let clean (s : List Char) : List Char := (s.filter (!isDropped ·)).map fun c =>
    if 'A' ≤ c ∧ c ≤ 'Z' then Char.ofNat (c.toNat + 32) else c
  match s with
  | a :: b :: rest =>
    if (a == 'i' || a == 'I') && (b == 's' || b == 'S') then
      let short := clean rest
      if short == ['c'] then "isc" else String.ofList short
    else String.ofList (clean s)
  | _ => String.ofList (clean s)

/-- The set that one name stands for: a property, a category or a script.  Three short names
belong to a category before a property. -/
def named? (s : List Char) : Option CharSet :=
  let name := normalName s
  let property := if name == "cf" || name == "sc" || name == "lc" then none else property? name
  match property with
  | some s => some s
  | none =>
    match category? name with
    | some s => some s
    | none => rangesUnder? scriptTable name

/-- The set that a property's name and a value's name stand for together. -/
def valued? (property value : List Char) : Option CharSet :=
  let property := normalName property
  let value := normalName value
  if property == "gc" || property == "generalcategory" then category? value
  else if property == "sc" || property == "script" then rangesUnder? scriptTable value
  else if property == "scx" || property == "scriptextensions" then
    match rangesUnder? scriptExtensionTable value with
    | some s => some s
    | none => rangesUnder? scriptTable value
  else none

/-! ## Shorthands -/

/-- Decimal digits. -/
def digits : CharSet := (rangesUnder? categoryTable "nd").getD .empty

/-- Blank characters. -/
def blanks : CharSet := (property? "whitespace").getD .empty

/-- Characters of words: letters, marks, digits, connectors and joiners. -/
def wordChars : CharSet :=
  .ofRanges (((property? "alphabetic").getD .empty).ranges ++ (categoryGroup 'm').ranges
    ++ digits.ranges ++ ((rangesUnder? categoryTable "pc").getD .empty).ranges
    ++ ((property? "joincontrol").getD .empty).ranges)

/-- Basic digits. -/
def basicDigits : CharSet := .interval 48 57

/-- Basic blanks. -/
def basicBlanks : CharSet := ⟨[⟨9, 13⟩, ⟨32, 32⟩]⟩

/-- Basic characters of words. -/
def basicWordChars : CharSet := ⟨[⟨48, 57⟩, ⟨65, 90⟩, ⟨95, 95⟩, ⟨97, 122⟩]⟩

/-- The named sets of basic characters. -/
def basicSets : List (String × CharSet) :=
  [("alnum", ⟨[⟨48, 57⟩, ⟨65, 90⟩, ⟨97, 122⟩]⟩), ("alpha", ⟨[⟨65, 90⟩, ⟨97, 122⟩]⟩),
    ("ascii", .interval 0 127), ("blank", ⟨[⟨9, 9⟩, ⟨32, 32⟩]⟩),
    ("cntrl", ⟨[⟨0, 31⟩, ⟨127, 127⟩]⟩), ("digit", basicDigits), ("graph", .interval 33 126),
    ("lower", .interval 97 122), ("print", .interval 32 126),
    ("punct", ⟨[⟨33, 47⟩, ⟨58, 64⟩, ⟨91, 96⟩, ⟨123, 126⟩]⟩), ("space", basicBlanks),
    ("upper", .interval 65 90), ("word", basicWordChars),
    ("xdigit", ⟨[⟨48, 57⟩, ⟨65, 70⟩, ⟨97, 102⟩]⟩)]

end Planwright.Pattern
