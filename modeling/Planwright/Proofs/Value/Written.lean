import Planwright.Proofs.Value.Fields

set_option autoImplicit false

/-!
# Reading what was written

A record is written as an object: some members always, others only if there is something to write.
Under each name stands what was written there, and nothing under the names that were left out.  A
reader that undoes the writing of each field so gives the record back.
-/

namespace Planwright

open Fallible

namespace Dict

variable {α : Type} {fields : Dict Value} {name : String} (shape : Shape α)

/-! ## Names -/

theorem keys_append (d d' : Dict α) : keys (d ++ d') = d.keys ++ d'.keys := List.map_append

/-- A member that may be left out. -/
theorem keys_optional_sublist (name : String) (write : α → Value) (o : Option α) :
    (keys (Value.optional name write o)).Sublist [name] := by
  cases o with
  | none => exact List.nil_sublist _
  | some a => exact List.Sublist.refl _

theorem get?_optional (name : String) (write : α → Value) (o : Option α) (key : String) :
    get? (Value.optional name write o) key = if name = key then o.map write else none := by
  cases o with
  | none => simp [Value.optional]
  | some a => simp [Value.optional, get?_cons]

/-! ## Fields -/

/-- A field that is always written is read again. -/
theorem field?_of_written {a : α} {v : Value} (hget : fields.get? name = some v)
    (hread : shape v = .ok a) : fields.field? name shape = .ok (some a) := by
  rw [field?_of_get?_eq_some hget, hread]
  rfl

/-- A field that is left out where there is nothing to write is read again.  (Null must not be
written: it is read as nothing.) -/
theorem nullable?_of_written {write : α → Value} {o : Option α}
    (hget : fields.get? name = o.map write)
    (hread : ∀ a, o = some a → Shape.nullable shape (write a) = .ok (some a)) :
    fields.nullable? name shape = .ok o := by
  cases o with
  | none =>
      rw [nullable?, field?_of_get?_eq_none hget]
      rfl
  | some a =>
      rw [nullable?, field?_of_written _ hget (hread a rfl)]
      rfl

end Dict

end Planwright
