import Planwright.Template.Basic
import Planwright.Failure

set_option autoImplicit false

/-!
# Filling templates

Rendering puts the text of the referenced values in place of the references and gives final
text.  Substitution does so for the references that a lookup knows and gives the text of a
template again: the other references stay, and all that has become literal is escaped.  In both,
text that comes from a value is never read as a template.
-/

namespace Planwright

/-- What becomes of a reference without a value. -/
inductive UnresolvedPolicy where
  /-- it stays as it was written -/
  | passThrough
  /-- it is a failure -/
  | error
  deriving DecidableEq, Repr, Inhabited

namespace UnresolvedPolicy

/-- The words for the policies. -/
def names : List (String × UnresolvedPolicy) := [("passThrough", .passThrough), ("error", .error)]

/-- The word for a policy. -/
def name : UnresolvedPolicy → String
  | .passThrough => "passThrough"
  | .error => "error"

end UnresolvedPolicy

namespace Reference

/-- The failure of a reference without a value. -/
def unresolved (r : Reference) : Failure := .invalid ("unresolved placeholder '" ++ r.path ++ "'")

/-- The text of a value under the reference's filter. -/
def present (r : Reference) (v : Value) : List Char :=
  match r.filter with
  | some f => (f.apply v).toList
  | none => v.shown.toList

/-- The final text of a reference. -/
def render (r : Reference) (lookup : String → Option Value) (policy : UnresolvedPolicy) :
    Except Failure (List Char) :=
  match lookup r.path with
  | some v => .ok (r.present v)
  | none =>
    match policy with
    | .passThrough => .ok r.raw
    | .error => .error r.unresolved

/-- The template text of a reference after substitution. -/
def substitute (r : Reference) (lookup : String → Option Value) : List Char :=
  match lookup r.path with
  | some v => Template.escape (r.present v)
  | none => r.raw

end Reference

namespace Template

/-- The final text of a template.  The first reference that fails decides. -/
def render (lookup : String → Option Value) (policy : UnresolvedPolicy) :
    Template → Except Failure (List Char)
  | [] => .ok []
  | .literal t :: rest => do
    let tail ← render lookup policy rest
    return t ++ tail
  | .reference r :: rest => do
    let head ← r.render lookup policy
    let tail ← render lookup policy rest
    return head ++ tail

/-- The template text after putting in the values that the lookup knows. -/
def substitute (lookup : String → Option Value) : Template → List Char
  | [] => []
  | .literal t :: rest => escape t ++ substitute lookup rest
  | .reference r :: rest => r.substitute lookup ++ substitute lookup rest

end Template

end Planwright
