import Planwright.Pattern.Matcher
import Planwright.Pattern.Parser
import Planwright.Text.Case
import Planwright.Text.Search
import Planwright.Failure
import Planwright.Value.Shape

set_option autoImplicit false

/-!
# Triggers

A trigger says which queries a capability answers: those that hold a text, or those in which a
pattern occurs.  Case never matters.
-/

namespace Planwright

/-- How a trigger is declared: as a plain text, or as an object with a pattern. -/
inductive TriggerSpec where
  | literal (text : String)
  | pattern (source : String)
  deriving DecidableEq, Repr, Inhabited

namespace TriggerSpec

/-- Reads a declaration. -/
def ofValue : Shape TriggerSpec := fun v =>
  match v with
  | .text s => .ok (.literal s)
  | .object members =>
    match Dict.get? members "pattern" with
    | some (.text s) => .ok (.pattern s)
    | _ => .error .noVariant
  | _ => .error .noVariant

/-- Writes a declaration. -/
def toValue : TriggerSpec → Value
  | .literal s => .text s
  | .pattern s => .ofMembers [("pattern", .text s)]

end TriggerSpec

/-- A trigger that is ready to be asked. -/
inductive Trigger where
  /-- a text in lower case -/
  | literal (lowered : List Char)
  | pattern (p : Pattern Pattern.Leaf)
  deriving Repr

namespace Trigger

/-- The trigger of a declaration; a pattern that cannot be read is refused. -/
def compile : TriggerSpec → Except Failure Trigger
  | .literal text => .ok (.literal (Text.lower text.toList))
  | .pattern source =>
    match Pattern.parse? source with
    | some p => .ok (.pattern p)
    | none => .error (.invalid ("invalid trigger pattern '" ++ source ++ "'"))

/-- Whether the trigger fires on a query. -/
def fires (query : String) : Trigger → Bool
  | .literal lowered => Text.occursIn lowered (Text.lower query.toList)
  | .pattern p => p.occursIn query

end Trigger

end Planwright
