import Planwright.Planning.Instantiate
import Planwright.Proofs.Instruction.Admission
import Planwright.Proofs.Numbers
import Planwright.Proofs.Value.Sorted
import Planwright.Proofs.Value.Written

set_option autoImplicit false

/-!
# Recipes that are written and read again

A step puts its free fields into one object with its tag, its key and whether it ends the recipe.
That can be undone because no free field has a name of these: what is read as a step is *proper*,
and stays so when the recipe is instantiated.  What is left out in writing, because it is absent or
not set, is what reading takes for granted.  So a recipe that was read is read again as it was
written, however it was given first (`recipe_survives`).
-/

namespace Planwright

open Fallible

/-- A value all of whose numbers can stand in structured text: integers of 64 bits, and finite
doubles. -/
inductive Value.Ranged : Value → Prop where
  | null : Ranged .null
  | bool (b : Bool) : Ranged (.bool b)
  | number {n : Number} (ranged : n.Ranged) : Ranged (.number n)
  | text (s : String) : Ranged (.text s)
  | list {items : List Value} (ranged : ∀ v ∈ items, Ranged v) : Ranged (.list items)
  | object {members : Dict Value} (ranged : ∀ m ∈ members, Ranged m.2) : Ranged (.object members)

namespace Shape

/-- What stands in a record stood in its value. -/
theorem ranged_of_record {declared : List Field} {v : Value} {fields : Dict Value}
    (hv : v.Ranged) (h : record declared v = .ok fields) : ∀ m ∈ fields, m.2.Ranged := by
  cases hv with
  | object ranged => exact Except.ok.inj h ▸ ranged
  | list ranged =>
      rw [record_list] at h
      exact eq_of_listed h ▸ fun m hm => ranged m.2 (List.of_mem_zip hm).2
  | _ => cases h

theorem isFinite_of_double {v : Value} {x : Float} (hv : v.Ranged) (h : double v = .ok x) :
    x.isFinite = true := by
  cases hv with
  | number ranged => exact Except.ok.inj h ▸ Number.isFinite_toFloat ranged
  | _ => cases h

theorem ranged_of_list {α : Type} {item : Shape α} {v : Value} {xs : List α} (hv : v.Ranged)
    (h : list item v = .ok xs) :
    ∃ items : List Value, items.mapM item = .ok xs ∧ ∀ w ∈ items, w.Ranged := by
  obtain ⟨items, rfl, hitems⟩ := list_eq_ok.1 h
  cases hv with
  | list ranged => exact ⟨items, hitems, ranged⟩

/-- A list whose items are read as they were written. -/
theorem list_map {α : Type} {item : Shape α} {write : α → Value} {xs : List α}
    (h : ∀ x ∈ xs, item (write x) = .ok x) : list item (.list (xs.map write)) = .ok xs :=
  mapM_map_eq_ok h

theorem double_ofFloat {x : Float} (h : x.isFinite = true) : double (.ofFloat x) = .ok x := by
  rw [Value.ofFloat_of_isFinite h]
  rfl

end Shape

theorem Dict.ranged_of_field? {α : Type} {fields : Dict Value} {name : String} {shape : Shape α}
    {a : α} (hfields : ∀ m ∈ fields, m.2.Ranged) (h : fields.field? name shape = .ok (some a)) :
    ∃ v : Value, v.Ranged ∧ shape v = .ok a := by
  obtain ⟨v, hget, hread⟩ := field?_eq_ok_some h
  exact ⟨v, hfields _ (mem_of_get? hget), hread⟩

theorem Value.keys_substituteMembers (lookup : String → Option Value) (members : Dict Value) :
    Dict.keys (substituteMembers lookup members) = members.keys := by
  induction members with
  | nil => rfl
  | cons m rest ih => exact congrArg (m.1 :: ·) ih

/-! ## Steps -/

namespace Step

/-- The free fields are sorted, and none of them has a name that belongs to every step. -/
structure Proper (s : Step) : Prop where
  sorted : s.fields.Sorted
  free : ∀ name ∈ reserved, name ∉ s.fields.keys

theorem proper_freeFields (members : Dict Value) :
    (freeFields members).Sorted ∧ ∀ name ∈ reserved, name ∉ (freeFields members).keys := by
  refine ⟨Dict.sorted_ofEntries _, fun name hname hmem => ?_⟩
  obtain ⟨m, hm, rfl⟩ := List.mem_map.1 (Dict.mem_keys_ofEntries_iff.1 hmem)
  have hfree := (List.mem_filter.1 hm).2
  rw [List.contains_iff_mem.2 hname] at hfree
  cases hfree

/-- Every step that was read is proper. -/
theorem proper_of_ofValue {v : Value} {s : Step} (h : ofValue v = .ok s) : s.Proper := by
  cases v with
  | object members =>
      have hfields := (ofValue_eq_ok h).2
      obtain ⟨hsorted, hfree⟩ := proper_freeFields members
      exact ⟨hfields ▸ hsorted, hfields ▸ hfree⟩
  | _ => cases h

/-- The members of a written step before its free fields. -/
def opening (s : Step) : Dict Value :=
  ("type", .text s.op) :: Value.optional "assignTo" .text s.assignTo
    ++ (if s.returns then [("returns", .bool true)] else [])

theorem toValue_eq (s : Step) : s.toValue = .object (Dict.ofEntries (s.opening ++ s.fields)) := rfl

theorem keys_opening_sublist (s : Step) :
    s.opening.keys.Sublist ["type", "assignTo", "returns"] := by
  have hreturns : (Dict.keys (if s.returns then [("returns", Value.bool true)] else [])).Sublist
      ["returns"] := by
    cases s.returns
    · exact List.nil_sublist _
    · exact List.Sublist.refl _
  have hkey := Dict.keys_optional_sublist "assignTo" Value.text s.assignTo
  have hopen := ((hkey.cons_cons "type").append hreturns)
  simpa [opening, Dict.keys] using hopen

theorem mem_reserved_of_mem_opening {s : Step} {name : String} (h : name ∈ s.opening.keys) :
    name ∈ reserved := by
  have hmem := s.keys_opening_sublist.subset h
  simp only [reserved, List.mem_cons, List.not_mem_nil, or_false] at hmem ⊢
  tauto

theorem get?_opening (s : Step) :
    s.opening.get? "type" = some (.text s.op) ∧
    s.opening.get? "assignTo" = s.assignTo.map .text ∧
    s.opening.get? "returns" = if s.returns then some (.bool true) else none := by
  cases hreturns : s.returns <;>
    simp [opening, hreturns, Dict.get?_append, Dict.get?_cons, Dict.get?_optional]

namespace Proper

variable {s : Step} (h : s.Proper)

include h

theorem nodup_keys : Dict.keys (s.opening ++ s.fields) |>.Nodup := by
  rw [Dict.keys_append, List.nodup_append']
  have hnames : ["type", "assignTo", "returns"].Nodup := by decide
  refine ⟨hnames.sublist s.keys_opening_sublist, h.sorted.nodup_keys, fun name hname => ?_⟩
  exact h.free name (mem_reserved_of_mem_opening hname)

/-- Under the names that belong to every step stands what was written first. -/
theorem get?_written {name : String} (hname : name ∈ reserved) :
    Dict.get? (s.opening ++ s.fields) name = s.opening.get? name := by
  rw [Dict.get?_append, Dict.get?_eq_none_iff.2 (h.free name hname), Option.or_none]

/-- The free fields of what was written are those of the step. -/
theorem freeFields_written : freeFields (Dict.ofEntries (s.opening ++ s.fields)) = s.fields := by
  have hsorted : Dict.Sorted ((Dict.ofEntries (s.opening ++ s.fields)).filter
      fun m => !reserved.contains m.1) :=
    (Dict.sorted_ofEntries _).filter _
  rw [freeFields, hsorted.ofEntries_eq]
  refine hsorted.ext h.sorted fun key => ?_
  rw [Dict.get?_filter (fun name => !reserved.contains name), Dict.get?_ofEntries h.nodup_keys]
  by_cases hkey : key ∈ reserved
  · rw [List.contains_iff_mem.2 hkey, Dict.get?_eq_none_iff.2 (h.free key hkey)]
    rfl
  · have hopening : s.opening.get? key = none :=
      Dict.get?_eq_none_iff.2 fun hmem => hkey (mem_reserved_of_mem_opening hmem)
    rw [Dict.get?_append, hopening, Option.none_or, if_pos]
    simpa using hkey

/-- A proper step is read as it was written. -/
theorem ofValue_toValue : ofValue s.toValue = .ok s := by
  obtain ⟨htype, hkey, hreturns⟩ := s.get?_opening
  have hnodup := h.nodup_keys
  rw [← h.get?_written (by decide)] at htype hkey hreturns
  have hends : (Dict.field? (s.opening ++ s.fields) "returns" Shape.bool).map (·.getD false)
      = .ok s.returns := by
    rw [Dict.field?, hreturns]
    cases s.returns <;> rfl
  obtain ⟨returns, hread, hends⟩ := map_eq_ok.1 hends
  have hfields := h.freeFields_written
  unfold freeFields at hfields
  rw [toValue_eq, ofValue]
  simp only [Shape.members, bind_of_ok, Dict.field?_ofEntries hnodup,
    Dict.nullable?_ofEntries hnodup,
    Dict.nullable?_of_written Shape.text hkey fun _ _ => rfl, hread,
    Dict.field?_of_written Shape.text htype rfl, hfields, hends]
  rfl

/-- Filling in what is known keeps the names of the free fields. -/
theorem instantiateStep (lookup : String → Option Value) :
    (Recipe.instantiateStep lookup s).Proper := by
  have hkeys : (Recipe.instantiateStep lookup s).fields.keys = s.fields.keys :=
    Value.keys_substituteMembers lookup s.fields
  refine ⟨?_, ?_⟩
  · rw [Dict.sorted_iff_keys, hkeys]
    exact Dict.sorted_iff_keys.1 h.sorted
  · rw [hkeys]
    exact h.free

end Proper

end Step

/-! ## Fallbacks -/

namespace Fallback

theorem isFinite_of_ofValue {v : Value} {f : Fallback} (hv : v.Ranged) (h : ofValue v = .ok f) :
    f.confidence.isFinite = true := by
  unfold ofValue at h
  simp only [bind_eq_ok] at h
  obtain ⟨fields, hfields, confidence, hconfidence, -, -, provider, -, hf⟩ := h
  obtain rfl := Except.ok.inj hf
  cases confidence with
  | none => exact (by decide : (0 : Float).isFinite = true)
  | some x =>
      obtain ⟨w, hw, hread⟩ := Dict.ranged_of_field? (Shape.ranged_of_record hv hfields) hconfidence
      exact Shape.isFinite_of_double hw hread

theorem ofValue_toValue {f : Fallback} (h : f.confidence.isFinite = true) :
    ofValue f.toValue = .ok f := by
  let written : Dict Value :=
    [("confidence", .ofFloat f.confidence), ("provider", .text f.provider)]
  have hkeys : written.keys.Nodup := (by decide : ["confidence", "provider"].Nodup)
  have hconfidence : written.field? "confidence" Shape.double = .ok (some f.confidence) :=
    Dict.field?_of_written _ rfl (Shape.double_ofFloat h)
  have hvalue : f.toValue = .object (Dict.ofEntries written) := rfl
  rw [hvalue, ofValue]
  simp only [Shape.record_object, bind_of_ok, Dict.field?_ofEntries hkeys, hconfidence]
  rfl

end Fallback

/-! ## Recipes -/

namespace Recipe

/-- Its numbers can be written, and its steps are proper. -/
structure Proper (r : Recipe) : Prop where
  confidence : r.confidence.isFinite = true
  steps : ∀ s ∈ r.steps, s.Proper
  fallbacks : ∀ f ∈ r.fallbacks, f.confidence.isFinite = true

theorem proper_of_ofValue {v : Value} {r : Recipe} (hv : v.Ranged) (h : ofValue v = .ok r) :
    r.Proper := by
  unfold ofValue at h
  simp only [bind_eq_ok, require_eq_ok] at h
  obtain ⟨fields, hfields, found, hconfidence, fallbacks, hfallbacks, read, hsteps, confidence, rfl,
    steps, rfl, hr⟩ := h
  obtain rfl := Except.ok.inj hr
  have hranged := Shape.ranged_of_record hv hfields
  refine ⟨?_, ?_, ?_⟩
  · obtain ⟨w, hw, hread⟩ := Dict.ranged_of_field? hranged hconfidence
    exact Shape.isFinite_of_double hw hread
  · obtain ⟨w, hw, hread⟩ := Dict.ranged_of_field? hranged hsteps
    obtain ⟨items, hitems, -⟩ := Shape.ranged_of_list hw hread
    exact forall_of_mapM_eq_ok (fun _ _ _ hs => Step.proper_of_ofValue hs) hitems
  · cases fallbacks with
    | none => exact fun f hf => nomatch hf
    | some fallbacks =>
        obtain ⟨w, hw, hread⟩ := Dict.ranged_of_field? hranged hfallbacks
        obtain ⟨items, hitems, hall⟩ := Shape.ranged_of_list hw hread
        exact forall_of_mapM_eq_ok
          (fun v hv _ hf => Fallback.isFinite_of_ofValue (hall v hv) hf) hitems

/-- The members of a written recipe. -/
def written (r : Recipe) : Dict Value :=
  [("confidence", .ofFloat r.confidence), ("steps", .list (r.steps.map Step.toValue))]
    ++ (if r.fallbacks.isEmpty then []
        else [("fallbacks", .list (r.fallbacks.map Fallback.toValue))])

theorem toValue_eq (r : Recipe) : r.toValue = .object (Dict.ofEntries r.written) := rfl

theorem nodup_keys_written (r : Recipe) : r.written.keys.Nodup := by
  cases hempty : r.fallbacks.isEmpty <;> simp [written, hempty, Dict.keys]

theorem Proper.ofValue_toValue {r : Recipe} (h : r.Proper) : ofValue r.toValue = .ok r := by
  have hkeys := r.nodup_keys_written
  have hconfidence : r.written.get? "confidence" = some (.ofFloat r.confidence) := rfl
  have hsteps : r.written.get? "steps" = some (.list (r.steps.map Step.toValue)) := rfl
  have hread : (r.written.field? "fallbacks" (Shape.list Fallback.ofValue)).map (·.getD [])
      = .ok r.fallbacks := by
    have hitems := Shape.list_map fun f hf => Fallback.ofValue_toValue (h.fallbacks f hf)
    cases hfallbacks : r.fallbacks with
    | nil => simp [written, hfallbacks, Dict.field?, Dict.get?_cons, Except.map]
    | cons f rest =>
        rw [hfallbacks] at hitems
        have hget : r.written.get? "fallbacks"
            = some (.list ((f :: rest).map Fallback.toValue)) := by
          simp [written, hfallbacks, Dict.get?_cons]
        rw [Dict.field?_of_written _ hget hitems]
        rfl
  obtain ⟨fallbacks, hfound, hfallbacks⟩ := map_eq_ok.1 hread
  rw [toValue_eq, ofValue]
  simp only [Shape.record_object, bind_of_ok, Dict.field?_ofEntries hkeys, hfound, hfallbacks,
    Dict.field?_of_written _ hconfidence (Shape.double_ofFloat h.confidence),
    Dict.field?_of_written _ hsteps (Shape.list_map fun s hs => (h.steps s hs).ofValue_toValue)]
  rfl

/-- **Recipes that are written.**  A recipe that was read, in whatever form it was given, is read
again as it was written, and is then written the same once more.  None of its steps has a free field
under one of the names that belong to every step, and none gets one when the recipe is
instantiated. -/
theorem recipe_survives {v : Value} {r : Recipe} (hv : v.Ranged) (h : ofValue v = .ok r) :
    ofValue r.toValue = .ok r ∧
    (ofValue r.toValue).map toValue = .ok r.toValue ∧
    (∀ s ∈ r.steps, ∀ name ∈ ["type", "assignTo", "returns"], name ∉ s.fields.keys) ∧
    ∀ entities, ∀ s ∈ (r.instantiate entities).steps,
      ∀ name ∈ ["type", "assignTo", "returns"], name ∉ s.fields.keys := by
  have hproper := proper_of_ofValue hv h
  have hread := hproper.ofValue_toValue
  have hnames : ["type", "assignTo", "returns"] ⊆ Step.reserved := by decide
  refine ⟨hread, by rw [hread]; rfl, fun s hs name hname => ?_, fun entities s hs name hname => ?_⟩
  · exact (hproper.steps s hs).free name (hnames hname)
  · obtain ⟨template, htemplate, rfl⟩ := List.mem_map.1 hs
    exact ((hproper.steps template htemplate).instantiateStep entities.get?).free name
      (hnames hname)

/-- A recipe with a whole number for its confidence, a fallback without one, and a step with a key
that is null. -/
theorem recipe_survives_wholeConfidence :
    let fields : Dict Value := [("decimals", .ofNat 3), ("input", .text "price")]
    let v : Value := .object [("confidence", .ofNat 1),
      ("fallbacks", .list [.object [("provider", .text "backup")]]),
      ("steps", .list [.object
        ([("assignTo", .null), ("returns", .bool true), ("type", .text "transform")] ++ fields)])]
    let r : Recipe := ⟨Float.ofInt 1, [⟨"transform", none, true, fields⟩], [⟨"backup", 0⟩]⟩
    v.Ranged ∧ ofValue v = .ok r ∧ ofValue r.toValue = .ok r := by
  intro fields v r
  have hwhole (n : Nat) (h : n < 2 ^ 64) : (Value.ofNat n).Ranged :=
    .number ⟨by omega, by omega⟩
  have hranged : v.Ranged := by
    refine .object (List.forall_mem_cons.2 ⟨hwhole 1 (by decide), List.forall_mem_cons.2
      ⟨.list (List.forall_mem_singleton.2 ?_), List.forall_mem_singleton.2
        (.list (List.forall_mem_singleton.2 ?_))⟩⟩)
    · exact .object (List.forall_mem_singleton.2 (.text _))
    · refine .object (List.forall_mem_append.2 ⟨?_, ?_⟩)
      · exact List.forall_mem_cons.2 ⟨.null, List.forall_mem_cons.2
          ⟨.bool true, List.forall_mem_singleton.2 (.text _)⟩⟩
      · exact List.forall_mem_cons.2 ⟨hwhole 3 (by decide), List.forall_mem_singleton.2 (.text _)⟩
  have hread : ofValue v = .ok r := rfl
  exact ⟨hranged, hread, (recipe_survives hranged hread).1⟩

end Recipe

end Planwright
