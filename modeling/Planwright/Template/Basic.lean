import Planwright.Template.Filter

set_option autoImplicit false

/-!
# Templates

A template is text with references: `${path}`, or `${path|filter}` with a presentation filter.
A path is made of words of basic letters, digits, `_` and `-`, joined by points.  The escapes
`\\` and `\${` stand for a backslash and for `${`.  Reading never fails: whatever is no
well-formed reference is literal text, and after a `${` that no brace closes all the rest is.

Reading goes through *tokens*, single literal characters and references.  The parsed template
joins neighbouring characters, so that no two literals are adjacent and none is empty.
-/

namespace Planwright

/-- A reference to a value. -/
structure Reference where
  /-- words joined by points -/
  path : String
  filter : Option Filter
  /-- the reference as it was written, braces included -/
  raw : List Char
  deriving DecidableEq, Repr, Inhabited

/-- The smallest parts of a template. -/
inductive Token where
  | char (c : Char)
  | ref (r : Reference)
  deriving DecidableEq, Repr, Inhabited

/-- A part of a parsed template. -/
inductive Segment where
  | literal (text : List Char)
  | reference (r : Reference)
  deriving DecidableEq, Repr, Inhabited

/-- A parsed template. -/
abbrev Template : Type := List Segment

namespace Reference

/-- The characters of the words of a path: basic letters, digits, `_` and `-`. -/
def isWordChar (c : Char) : Bool :=
  ('a' ≤ c && c ≤ 'z') || ('A' ≤ c && c ≤ 'Z') || ('0' ≤ c && c ≤ '9') || c == '_' || c == '-'

/-- Whether the text is a path: words that are not empty, joined by points. -/
def isPath (s : List Char) : Bool :=
  (s.splitOn '.').all fun w => !w.isEmpty && w.all isWordChar

/-- A reference as it is written around the text between its braces. -/
def written (inner : List Char) : List Char := '$' :: '{' :: inner ++ ['}']

/-- Reads the text between the braces of a reference: a path between blanks, perhaps with a bar
and a filter's name between blanks after it. -/
def ofInner? (inner : List Char) : Option Reference :=
  match Text.cutAt '|' inner with
  | none =>
    let path := Text.trim inner
    if isPath path then some ⟨String.ofList path, none, written inner⟩ else none
  | some (before, after) =>
    let path := Text.trim before
    match Filter.ofName? (Text.trim after) with
    | none => none
    | some f => if isPath path then some ⟨String.ofList path, some f, written inner⟩ else none

end Reference

namespace Template

/-- Literal characters as tokens. -/
def literally (s : List Char) : List Token := s.map .char

/-- Reads the tokens of a template's text. -/
def tokenize (s : List Char) : List Token :=
  match s with
  | [] => []
  | '\\' :: '\\' :: rest => .char '\\' :: tokenize rest
  | '\\' :: '$' :: '{' :: rest => .char '$' :: .char '{' :: tokenize rest
  | '$' :: '{' :: rest =>
    match h : Text.cutAt '}' rest with
    | none => literally ('$' :: '{' :: rest)
    | some (inner, after) =>
      have : after.length < rest.length := Text.length_lt_of_cutAt h
      match Reference.ofInner? inner with
      | some r => .ref r :: tokenize after
      | none => literally (Reference.written inner) ++ tokenize after
  | c :: rest => .char c :: tokenize rest
termination_by s.length

/-- Joins neighbouring characters to literals. -/
def join : List Token → Template
  | [] => []
  | .ref r :: ts => .reference r :: join ts
  | .char c :: ts =>
    match join ts with
    | .literal t :: rest => .literal (c :: t) :: rest
    | rest => .literal [c] :: rest

/-- The template that a text denotes. -/
def parse (s : String) : Template := join (tokenize s.toList)

/-- The references of a template, in order. -/
def references (t : Template) : List Reference :=
  t.filterMap fun
    | .literal _ => none
    | .reference r => some r

/-- The path of a template that is exactly one reference without a filter. -/
def single? : Template → Option String
  | [.reference ⟨path, none, _⟩] => some path
  | _ => none

/-- Whether a text holds at least one reference. -/
def hasReferences (s : String) : Bool := !(parse s).references.isEmpty

/-- Writes literal text so that it reads as itself: backslashes are doubled, and a backslash is
put before `${`. -/
def escape : List Char → List Char
  | [] => []
  | '\\' :: rest => '\\' :: '\\' :: escape rest
  | '$' :: '{' :: rest => '\\' :: '$' :: '{' :: escape rest
  | c :: rest => c :: escape rest

/-- Writes the literal text of a string. -/
def escapeString (s : String) : String := String.ofList (escape s.toList)

end Template

end Planwright
