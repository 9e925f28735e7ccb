import Planwright.Value.Shape
import Planwright.Proofs.Fallible

set_option autoImplicit false

/-!
# What was there when a record was read

If a record is read successfully, what its reader asked for was there and had the wanted shape.

A list that stands for a record holds the values of its first fields (`Shape.eq_of_listed`).  They
have passed the checks of these fields, so whoever asks for one of them with the shape that it was
declared with reads it (`Dict.field?_of_required`, `Dict.field?_of_optional`).
-/

namespace Planwright

open Fallible

theorem require_eq_ok {α : Type} {name : String} {found : Option α} {a : α} :
    require name found = .ok a ↔ found = some a := by
  cases found <;> simp [require]

namespace Shape

theorem text_eq_ok {v : Value} {s : String} : text v = .ok s ↔ v = .text s := by
  cases v <;> simp [text]

theorem members_eq_ok {v : Value} {ms : Dict Value} : members v = .ok ms ↔ v = .object ms := by
  cases v <;> simp [members]

theorem list_eq_ok {α : Type} {item : Shape α} {v : Value} {xs : List α} :
    list item v = .ok xs ↔ ∃ items, v = .list items ∧ items.mapM item = .ok xs := by
  cases v <;> simp [list]

end Shape

/-- Values that stand for fields stand for them in their order. -/
theorem Field.eq_of_named {count index : Nat} {fields : List Field} {values : List Value}
    {ms : Dict Value} (h : named count index fields values = .ok ms) :
    ms = (fields.map (·.name)).zip values := by
  induction fields generalizing index values ms with
  | nil =>
      cases values with
      | nil => exact (Except.ok.inj h).symm
      | cons v values => cases h
  | cons f fields ih =>
      cases values with
      | nil =>
          rw [named] at h
          split at h
          · cases h
          · simpa using ih h
      | cons v values =>
          rw [named] at h
          simp only [bind_eq_ok] at h
          obtain ⟨-, -, rest, hrest, hms⟩ := h
          rw [← Except.ok.inj hms, ih hrest]
          rfl

/-- A record given as a list has the values of the list under the names of its first fields. -/
theorem Shape.eq_of_listed {fields : List Field} {values : List Value} {ms : Dict Value}
    (h : listed fields values = .ok ms) : ms = (fields.map (·.name)).zip values :=
  Field.eq_of_named h

/-- Such values pass the checks of their fields, and there is one for each field that is needed. -/
theorem Field.get?_of_named {count index : Nat} {fields : List Field} {values : List Value}
    {ms : Dict Value} {f : Field} (hdistinct : (fields.map (·.name)).Nodup)
    (h : named count index fields values = .ok ms) (hf : f ∈ fields) :
    (∃ v, ms.get? f.name = some v ∧ f.check v = .ok ()) ∨
      f.needed = false ∧ ms.get? f.name = none := by
  induction fields generalizing index values ms with
  | nil => cases hf
  | cons g fields ih =>
      obtain ⟨hfresh, hrest⟩ := List.nodup_cons.1 hdistinct
      cases values with
      | nil =>
          rw [named] at h
          split at h
          · cases h
          · rename_i hneeded
            rcases List.mem_cons.1 hf with rfl | hf
            · refine .inr ⟨by simpa using hneeded, ?_⟩
              rw [eq_of_named h, List.zip_nil_right, Dict.get?_nil]
            · exact ih hrest h hf
      | cons v values =>
          rw [named] at h
          simp only [bind_eq_ok] at h
          obtain ⟨_, hcheck, rest, hnamed, hms⟩ := h
          rw [← Except.ok.inj hms, Dict.get?_cons]
          rcases List.mem_cons.1 hf with rfl | hf
          · exact .inl ⟨v, if_pos rfl, hcheck⟩
          · have hne : g.name ≠ f.name := by
              intro heq
              exact hfresh (List.mem_map.2 ⟨f, hf, heq.symm⟩)
            rw [if_neg hne]
            exact ih hrest hnamed hf

namespace Dict

variable {α : Type} {fields : Dict Value} {name : String} {shape : Shape α}

theorem field?_of_get?_eq_some {v : Value} (h : fields.get? name = some v) :
    fields.field? name shape = (shape v).map some := by
  rw [field?, h]

theorem field?_of_get?_eq_none (h : fields.get? name = none) :
    fields.field? name shape = .ok none := by
  rw [field?, h]

/-- Entries that are put one after the other, each under a name of its own. -/
theorem get?_foldl_put {entries : Dict α} (h : entries.keys.Nodup) (d : Dict α) (key : String) :
    (entries.foldl (fun d e => d.put e.1 e.2) d).get? key = (entries.get? key).or (d.get? key) := by
  induction entries generalizing d with
  | nil => rfl
  | cons e entries ih =>
      obtain ⟨k, v⟩ := e
      obtain ⟨hfresh, hrest⟩ := List.nodup_cons.1 h
      rw [List.foldl_cons, ih hrest, get?_cons]
      by_cases hk : k = key
      · subst hk
        rw [get?_eq_none_iff.2 hfresh, get?_put_self, if_pos rfl]
        rfl
      · rw [get?_put_of_ne (Ne.symm hk), if_neg hk]

/-- The members of an object that is written from entries with names of their own. -/
theorem get?_ofEntries {entries : Dict α} (h : entries.keys.Nodup) (key : String) :
    (ofEntries entries).get? key = entries.get? key := by
  rw [ofEntries, get?_foldl_put h, get?_nil, Option.or_none]

theorem field?_ofEntries {entries : Dict Value} (h : entries.keys.Nodup) (name : String)
    (shape : Shape α) : (ofEntries entries).field? name shape = entries.field? name shape := by
  rw [field?, field?, get?_ofEntries h]

theorem nullable?_ofEntries {entries : Dict Value} (h : entries.keys.Nodup) (name : String)
    (shape : Shape α) :
    (ofEntries entries).nullable? name shape = entries.nullable? name shape := by
  rw [nullable?, nullable?, field?_ofEntries h]

/-- A field that was found was there, with its shape. -/
theorem field?_eq_ok_some {a : α} (h : fields.field? name shape = .ok (some a)) :
    ∃ v, fields.get? name = some v ∧ shape v = .ok a := by
  cases hget : fields.get? name with
  | none =>
      rw [field?_of_get?_eq_none hget] at h
      cases h
  | some v =>
      rw [field?_of_get?_eq_some hget, map_eq_ok] at h
      obtain ⟨b, hb, hsome⟩ := h
      exact ⟨v, rfl, by rw [hb, Option.some.inj hsome]⟩

/-! ### Records given as lists -/

section

variable {declared : List Field} {values : List Value}

/-- A value that passes the check of its field is read. -/
theorem field?_of_check {v : Value} (hget : fields.get? name = some v)
    (hcheck : (shape v).map (fun _ => ()) = .ok ()) :
    ∃ a, fields.field? name shape = .ok (some a) := by
  obtain ⟨a, ha, -⟩ := map_eq_ok.1 hcheck
  refine ⟨a, ?_⟩
  rw [field?_of_get?_eq_some hget, ha]
  rfl

/-- Where a list stands for a record, a field that is needed is read. -/
theorem field?_of_required (hdistinct : (declared.map (·.name)).Nodup)
    (h : Shape.listed declared values = .ok fields) (hf : .required name shape ∈ declared) :
    ∃ a, fields.field? name shape = .ok (some a) := by
  rcases Field.get?_of_named hdistinct h hf with ⟨v, hget, hcheck⟩ | ⟨hneeded, -⟩
  · exact field?_of_check hget hcheck
  · cases hneeded

/-- Any other field is read too, as absent if the list ends before it. -/
theorem field?_of_optional (hdistinct : (declared.map (·.name)).Nodup)
    (h : Shape.listed declared values = .ok fields) (hf : .optional name shape ∈ declared) :
    ∃ found, fields.field? name shape = .ok found := by
  rcases Field.get?_of_named hdistinct h hf with ⟨v, hget, hcheck⟩ | ⟨-, hget⟩
  · obtain ⟨a, ha⟩ := field?_of_check hget hcheck
    exact ⟨some a, ha⟩
  · exact ⟨none, field?_of_get?_eq_none hget⟩

theorem nullable?_of_optional (hdistinct : (declared.map (·.name)).Nodup)
    (h : Shape.listed declared values = .ok fields)
    (hf : .optional name (Shape.nullable shape) ∈ declared) :
    ∃ found, fields.nullable? name shape = .ok found := by
  obtain ⟨found, hfound⟩ := field?_of_optional hdistinct h hf
  exact ⟨found.join, by rw [nullable?, hfound]; rfl⟩

end

end Dict

end Planwright
