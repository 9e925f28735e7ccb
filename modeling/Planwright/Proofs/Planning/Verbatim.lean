import Planwright.Planning.Instantiate
import Planwright.Proofs.Instruction.Admission
import Planwright.Proofs.Template.Restating
import Planwright.Proofs.Value.Texts

set_option autoImplicit false

/-!
# Texts that are used as they are

Most texts of a recipe are templates, and what is read is what rendering them gives.  The others are
used as they are: the keys that results are assigned to, the names of members, the paths, and the
words that name operations, functions, methods and kinds.  Which is which depends only on the name
of the field that a text stands in.

This goes for calls given as lists too, where the place of a value says which field it belongs to.

A recipe is written again by changing the texts of one sort or of both (`Recipe.retext`).  Planning
without entities changes both (`instantiate_nil`).  If only the templates are changed, the steps are
read as before, with the same changes in what is read (`decode_retext`).
-/

namespace Planwright

open Fallible

/-! ## The use of a field -/

/-- What happens to the texts in a field of a step or of a call. -/
inductive FieldUse where
  /-- they are rendered -/
  | rendered
  /-- a text with references is rendered, and one without is a path -/
  | condition
  /-- they are used as they are -/
  | verbatim
  deriving DecidableEq, Repr

namespace FieldUse

/-- The use of the field of a name. -/
def of (name : String) : FieldUse :=
  if ["body", "category", "endpoint", "message", "params", "provider", "template"].contains name
  then .rendered
  else if name == "condition" then .condition
  else .verbatim

/-- The value of a field with its texts changed: by `g` if they are rendered, by `f` otherwise. -/
def change (f g : String → String) : FieldUse → Value → Value
  | .rendered, v => v.mapText g
  | .condition, .text s => .text (if Template.hasReferences s then g s else f s)
  | .condition, v => v.mapText g
  | .verbatim, v => v.mapText f

theorem change_same (f : String → String) (use : FieldUse) (v : Value) :
    use.change f f v = v.mapText f := by
  cases use with
  | condition =>
      cases v with
      | text s => rw [change, ite_self, Value.mapText]
      | _ => rfl
  | _ => rfl

theorem change_change {f g f' g' : String → String}
    (hf : ∀ s, Template.hasReferences (f s) = Template.hasReferences s)
    (hg : ∀ s, Template.hasReferences (g s) = Template.hasReferences s) (use : FieldUse)
    (v : Value) :
    use.change f' g' (use.change f g v) = use.change (f' ∘ f) (g' ∘ g) v := by
  cases use with
  | condition =>
      cases v with
      | text s => by_cases hs : Template.hasReferences s <;> simp [change, hs, hf, hg]
      | list items => exact Value.mapText_mapText g g' _
      | object members => exact Value.mapText_mapText g g' _
      | _ => rfl
  | rendered => exact Value.mapText_mapText g g' v
  | verbatim => exact Value.mapText_mapText f f' v

theorem change_ne_list (f g : String → String) (use : FieldUse) {v : Value}
    (h : ∀ items, v ≠ .list items) (items : List Value) : use.change f g v ≠ .list items := by
  cases v with
  | list items => exact absurd rfl (h items)
  | _ => cases use <;> exact nofun

end FieldUse

/-! ## Changing the texts of a recipe -/

/-- The fields that hold records again: calls, or the steps of a branch. -/
def nestedFields : List String := "calls" :: Step.branchFields

namespace Value

/-- The values of a call given as a list with their texts changed, by `g` where they are rendered
and by `f` where they are used as they are; these are the fields that they belong to. -/
def retextListed (f g : String → String) : List Field → List Value → List Value
  | [], values => values.map (mapText f)
  | _, [] => []
  | field :: fields, v :: values =>
    (FieldUse.of field.name).change f g v :: retextListed f g fields values

mutual

/-- The field of a name with its texts changed, by `g` where they are rendered and by `f` where they
are used as they are. -/
def retextField (f g : String → String) (name : String) : Value → Value
  | .list items =>
    if nestedFields.contains name then .list (retextItems f g items)
    else (FieldUse.of name).change f g (.list items)
  | v => (FieldUse.of name).change f g v

/-- The records in a list with their texts changed. -/
def retextItems (f g : String → String) : List Value → List Value
  | [] => []
  | v :: rest => retextItem f g v :: retextItems f g rest

/-- A record in a list with its texts changed.  Of these only a call may be given as a list. -/
def retextItem (f g : String → String) : Value → Value
  | .object members => .object (retextMembers f g members)
  | .list values => .list (retextListed f g Node.callFields values)
  | v => v.mapText f

/-- The fields of a record with their texts changed. -/
def retextMembers (f g : String → String) : List (String × Value) → List (String × Value)
  | [] => []
  | (k, v) :: rest => (k, retextField f g k v) :: retextMembers f g rest

end

end Value

/-- The step with its texts changed. -/
def Step.retext (f g : String → String) (s : Step) : Step :=
  { s with
    assignTo := s.assignTo.map f
    fields := Dict.mapFields (Value.retextField f g) s.fields }

/-- The fallback with its text changed; it is rendered, but the trace shows it as it is. -/
def Fallback.retext (f : String → String) (b : Fallback) : Fallback :=
  { b with provider := f b.provider }

/-- The recipe with its texts changed, by `g` where they are rendered and by `f` where they are used
as they are. -/
def Recipe.retext (f g : String → String) (r : Recipe) : Recipe :=
  { r with
    steps := r.steps.map (Step.retext f g)
    fallbacks := r.fallbacks.map (Fallback.retext f) }

namespace Value

section

variable (f g : String → String)

theorem retextItems_eq (items : List Value) :
    retextItems f g items = items.map (retextItem f g) := by
  induction items with
  | nil => rfl
  | cons v rest ih => rw [retextItems, ih, List.map_cons]

theorem retextMembers_eq (members : Dict Value) :
    retextMembers f g members = Dict.mapFields (retextField f g) members := by
  induction members with
  | nil => rfl
  | cons m rest ih =>
      rw [retextMembers, ih]
      rfl

theorem retextItem_object (members : Dict Value) :
    retextItem f g (.object members) = .object (Dict.mapFields (retextField f g) members) := by
  rw [retextItem, retextMembers_eq]

theorem retextItem_list (values : List Value) :
    retextItem f g (.list values) = .list (retextListed f g Node.callFields values) := by
  rw [retextItem]

theorem retextListed_nil (fields : List Field) : retextListed f g fields [] = [] := by
  cases fields <;> rfl

theorem length_retextListed (fields : List Field) (values : List Value) :
    (retextListed f g fields values).length = values.length := by
  induction fields generalizing values with
  | nil => exact List.length_map _
  | cons field fields ih =>
      cases values with
      | nil => rfl
      | cons v values => exact congrArg (· + 1) (ih values)

theorem retextField_of_not_list {v : Value} (h : ∀ items, v ≠ .list items) (name : String) :
    retextField f g name v = (FieldUse.of name).change f g v := by
  cases v with
  | list items => exact absurd rfl (h items)
  | _ => rw [retextField]; exact nofun

theorem retextField_of_not_nested {name : String} (h : nestedFields.contains name = false)
    (v : Value) : retextField f g name v = (FieldUse.of name).change f g v := by
  cases v with
  | list items => rw [retextField, h, if_neg Bool.false_ne_true]
  | _ => exact retextField_of_not_list f g (by intro items hlist; cases hlist) _

theorem retextField_list {name : String} (h : nestedFields.contains name = true)
    (items : List Value) :
    retextField f g name (.list items) = .list (items.map (retextItem f g)) := by
  rw [retextField, if_pos h, retextItems_eq]

end

theorem retextListed_same (f : String → String) (fields : List Field) (values : List Value) :
    retextListed f f fields values = values.map (mapText f) := by
  induction fields generalizing values with
  | nil => rfl
  | cons field fields ih =>
      cases values with
      | nil => rfl
      | cons v values => rw [retextListed, FieldUse.change_same, ih, List.map_cons]

/-- Where the same is done to all texts, their uses do not matter. -/
theorem retextField_same (f : String → String) (v : Value) :
    (∀ name, retextField f f name v = v.mapText f) ∧ retextItem f f v = v.mapText f := by
  induction v using induction with
  | list items ih =>
      have hlisted : retextItem f f (.list items) = (Value.list items).mapText f := by
        rw [retextItem_list, retextListed_same, mapText_list]
      refine ⟨fun name => ?_, hlisted⟩
      cases hnested : nestedFields.contains name with
      | false => rw [retextField_of_not_nested f f hnested, FieldUse.change_same]
      | true =>
          rw [retextField_list f f hnested, mapText_list]
          exact congrArg list (List.map_congr_left fun v hv => (ih v hv).2)
  | object members ih =>
      refine ⟨fun name => FieldUse.change_same f _ _, ?_⟩
      rw [retextItem_object, mapText_object]
      exact congrArg object (List.map_congr_left fun m hm => Prod.ext rfl ((ih m hm).1 m.1))
  | _ => exact ⟨fun name => FieldUse.change_same f _ _, rfl⟩

theorem retextListed_retextListed {f g f' g' : String → String}
    (hf : ∀ s, Template.hasReferences (f s) = Template.hasReferences s)
    (hg : ∀ s, Template.hasReferences (g s) = Template.hasReferences s) (fields : List Field)
    (values : List Value) :
    retextListed f' g' fields (retextListed f g fields values)
      = retextListed (f' ∘ f) (g' ∘ g) fields values := by
  induction fields generalizing values with
  | nil =>
      rw [retextListed, retextListed, retextListed, List.map_map]
      exact List.map_congr_left fun v _ => mapText_mapText f f' v
  | cons field fields ih =>
      cases values with
      | nil => rfl
      | cons v values =>
          rw [retextListed, retextListed, FieldUse.change_change hf hg, ih, retextListed]

/-- Texts may be changed one sort after the other. -/
theorem retextField_retextField {f g f' g' : String → String}
    (hf : ∀ s, Template.hasReferences (f s) = Template.hasReferences s)
    (hg : ∀ s, Template.hasReferences (g s) = Template.hasReferences s) (v : Value) :
    (∀ name, retextField f' g' name (retextField f g name v)
      = retextField (f' ∘ f) (g' ∘ g) name v) ∧
      retextItem f' g' (retextItem f g v) = retextItem (f' ∘ f) (g' ∘ g) v := by
  have hplain : ∀ {v : Value}, (∀ items, v ≠ .list items) → ∀ name,
      retextField f' g' name (retextField f g name v)
        = retextField (f' ∘ f) (g' ∘ g) name v := by
    intro v hv name
    rw [retextField_of_not_list f g hv,
      retextField_of_not_list f' g' (FieldUse.change_ne_list f g _ hv),
      FieldUse.change_change hf hg, retextField_of_not_list _ _ hv]
  induction v using induction with
  | list items ih =>
      have hlisted : retextItem f' g' (retextItem f g (.list items))
          = retextItem (f' ∘ f) (g' ∘ g) (.list items) := by
        rw [retextItem_list, retextItem_list, retextItem_list, retextListed_retextListed hf hg]
      refine ⟨fun name => ?_, hlisted⟩
      cases hnested : nestedFields.contains name with
      | false => simp only [retextField_of_not_nested _ _ hnested, FieldUse.change_change hf hg]
      | true =>
          rw [retextField_list f g hnested, retextField_list f' g' hnested,
            retextField_list _ _ hnested, List.map_map]
          exact congrArg list (List.map_congr_left fun v hv => (ih v hv).2)
  | object members ih =>
      refine ⟨hplain (by intro _ hlist; cases hlist), ?_⟩
      rw [retextItem_object, retextItem_object, retextItem_object, Dict.mapFields, Dict.mapFields,
        List.map_map]
      exact congrArg object (List.map_congr_left fun m hm => Prod.ext rfl ((ih m hm).1 m.1))
  | _ => exact ⟨hplain (by intro _ hlist; cases hlist), rfl⟩

end Value

/-! ## Planning without entities -/

namespace Value

theorem substituteItems_eq (lookup : String → Option Value) (items : List Value) :
    substituteItems lookup items = items.map (substitute lookup) := by
  induction items with
  | nil => rfl
  | cons v rest ih => rw [substituteItems, ih, List.map_cons]

theorem substituteMembers_eq (lookup : String → Option Value) (members : Dict Value) :
    substituteMembers lookup members = Dict.mapFields (fun _ => substitute lookup) members := by
  induction members with
  | nil => rfl
  | cons m rest ih =>
      rw [substituteMembers, ih]
      rfl

/-- Where nothing is known, every text is written again. -/
theorem substitute_none (v : Value) :
    substitute (fun _ => none) v = v.mapText Template.restated := by
  induction v using induction with
  | text s => simp [substitute, substituteWhole, mapText, Template.restated]
  | list items ih =>
      rw [substitute, substituteItems_eq, mapText_list, List.map_congr_left ih]
  | object members ih =>
      rw [substitute, substituteMembers_eq, mapText_object]
      exact congrArg object (List.map_congr_left fun m hm => Prod.ext rfl (ih m hm))
  | _ => rfl

end Value

namespace Recipe

/-- Planning without entities writes every text of the template again. -/
theorem instantiate_nil (r : Recipe) :
    r.instantiate [] = r.retext Template.restated Template.restated := by
  have hlookup : Dict.get? ([] : Dict Value) = fun _ => none := rfl
  have hstep : instantiateStep (fun _ => none)
      = Step.retext Template.restated Template.restated := by
    funext s
    have hfields : Value.substituteMembers (fun _ => none) s.fields
        = Dict.mapFields (Value.retextField Template.restated Template.restated) s.fields := by
      rw [Value.substituteMembers_eq]
      refine List.map_congr_left fun m _ => Prod.ext rfl ?_
      exact (Value.substitute_none m.2).trans
        ((Value.retextField_same Template.restated m.2).1 m.1).symm
    rw [instantiateStep, hfields]
    rfl
  rw [instantiate, hlookup, hstep]
  rfl

theorem retext_retext {f g f' g' : String → String}
    (hf : ∀ s, Template.hasReferences (f s) = Template.hasReferences s)
    (hg : ∀ s, Template.hasReferences (g s) = Template.hasReferences s) (r : Recipe) :
    (r.retext f g).retext f' g' = r.retext (f' ∘ f) (g' ∘ g) := by
  have hfields : ∀ fields : Dict Value,
      Dict.mapFields (Value.retextField f' g') (Dict.mapFields (Value.retextField f g) fields)
        = Dict.mapFields (Value.retextField (f' ∘ f) (g' ∘ g)) fields := by
    intro fields
    rw [Dict.mapFields, Dict.mapFields, List.map_map]
    exact List.map_congr_left fun m _ =>
      Prod.ext rfl ((Value.retextField_retextField hf hg m.2).1 m.1)
  simp only [retext, List.map_map]
  congr 1
  exact List.map_congr_left fun s _ => by simp [Step.retext, hfields]

/-- Planning without entities does no more to a template in which the texts that are used as they
are have been written again than to write the others again. -/
theorem instantiate_nil_eq (r : Recipe) :
    r.instantiate [] = (r.retext Template.restated id).retext id Template.restated := by
  rw [instantiate_nil, retext_retext (g := id) Template.hasReferences_restated fun _ => rfl]
  rfl

end Recipe

/-! ## Reading what has its templates changed -/

/-- The target with its text changed. -/
def CallTarget.retext (g : String → String) : CallTarget → CallTarget
  | .provider id => .provider (g id)
  | .category name requirements => .category (g name) requirements

/-- The call with the texts changed that are rendered. -/
def ApiCall.retext (g : String → String) (c : ApiCall) : ApiCall :=
  { c with
    target := c.target.retext g
    endpoint := g c.endpoint
    params := c.params.mapText g
    body := c.body.map (Value.mapText g) }

/-- The instruction with the texts changed that are rendered. -/
def Act.retext (g : String → String) : Act → Act
  | .call c => .call (c.retext g)
  | .parallel calls => .parallel (calls.map (ApiCall.retext g))
  | .batch provider calls => .batch (g provider) (calls.map (ApiCall.retext g))
  | .calculate operation params => .calculate operation (params.mapText g)
  | .format template => .format (g template)
  | .transform input function places => .transform input function places
  | .fail e => .fail { e with message := g e.message }
  | .custom action params => .custom action (params.mapText g)

namespace Node

mutual

/-- The instruction with the texts changed that are rendered. -/
def retext (g : String → String) : Node → Node
  | .plain head act => .plain head (act.retext g)
  | .branch head condition ifTrue ifFalse =>
    .branch head (FieldUse.condition.change id g condition) (retextAll g ifTrue)
      (retextAll g ifFalse)

/-- Several instructions with the texts changed that are rendered. -/
def retextAll (g : String → String) : List Node → List Node
  | [] => []
  | n :: rest => retext g n :: retextAll g rest

end

theorem retextAll_eq (g : String → String) (ns : List Node) :
    retextAll g ns = ns.map (retext g) := by
  induction ns with
  | nil => rfl
  | cons n rest ih => rw [retextAll, ih, List.map_cons]

end Node

/-! ## Reading fields -/

namespace Dict

variable {α : Type} {g : String → String} {name : String}

/-- The fields of a record with the texts changed that are rendered. -/
def retext (g : String → String) (fields : Dict Value) : Dict Value :=
  fields.mapFields (Value.retextField id g)

/-- The field of this name is no list of records and has this use. -/
def HasUse (name : String) (use : FieldUse) : Prop :=
  nestedFields.contains name = false ∧ FieldUse.of name = use

instance (name : String) (use : FieldUse) : Decidable (HasUse name use) :=
  inferInstanceAs (Decidable (_ ∧ _))

theorem retextField_verbatim (h : HasUse name .verbatim) (v : Value) :
    Value.retextField id g name v = v := by
  rw [Value.retextField_of_not_nested _ _ h.1, h.2, FieldUse.change, Value.mapText_id]

theorem retextField_rendered (h : HasUse name .rendered) (v : Value) :
    Value.retextField id g name v = v.mapText g := by
  rw [Value.retextField_of_not_nested _ _ h.1, h.2, FieldUse.change]

theorem field?_retext_verbatim (h : HasUse name .verbatim) (shape : Shape α) (fields : Dict Value) :
    (fields.retext g).field? name shape = fields.field? name shape :=
  field?_mapFields_of_eq (retextField_verbatim h) fields

theorem nullable?_retext_verbatim (h : HasUse name .verbatim) (shape : Shape α)
    (fields : Dict Value) :
    (fields.retext g).nullable? name shape = fields.nullable? name shape :=
  nullable?_mapFields_of_eq (retextField_verbatim h) fields

theorem text_mapText (g : String → String) (v : Value) :
    Shape.text (v.mapText g) = (Shape.text v).map g := by
  cases v <;> rfl

theorem field?_retext_text (h : HasUse name .rendered) (fields : Dict Value) :
    (fields.retext g).field? name Shape.text = (fields.field? name Shape.text).map (Option.map g) :=
  field?_mapFields_of (fun v => by rw [retextField_rendered h, text_mapText]) fields

theorem field?_retext_any (h : HasUse name .rendered) (fields : Dict Value) :
    (fields.retext g).field? name Shape.any
      = (fields.field? name Shape.any).map (Option.map (Value.mapText g)) :=
  field?_mapFields_of (fun v => by rw [retextField_rendered h]; rfl) fields

theorem nullable?_retext_text (h : HasUse name .rendered) (fields : Dict Value) :
    (fields.retext g).nullable? name Shape.text
      = (fields.nullable? name Shape.text).map (Option.map g) :=
  nullable?_mapFields_of (retextField_rendered h .null)
    (fun v hv => by rw [retextField_rendered h]; exact Value.mapText_ne_null g hv)
    (fun v => by rw [retextField_rendered h, text_mapText]) fields

theorem nullable?_retext_any (h : HasUse name .rendered) (fields : Dict Value) :
    (fields.retext g).nullable? name Shape.any
      = (fields.nullable? name Shape.any).map (Option.map (Value.mapText g)) :=
  nullable?_mapFields_of (retextField_rendered h .null)
    (fun v hv => by rw [retextField_rendered h]; exact Value.mapText_ne_null g hv)
    (fun v => by rw [retextField_rendered h]; rfl) fields

end Dict

/-! ## Reading what steps hold -/

namespace Node

variable (g : String → String)

theorem members_object (fields : Dict Value) :
    Shape.members (.object fields) = pure fields := rfl

theorem shaped_map {α β : Type} (op : String) (h : α → β) (x : Except ShapeError α) :
    shaped op (x.map h) = (shaped op x).map h := by
  cases x <;> rfl

/-- What a call says, with the texts changed that are rendered. -/
def RawCall.retext (raw : RawCall) : RawCall :=
  { raw with
    provider := raw.provider.map g
    category := raw.category.map g
    endpoint := g raw.endpoint
    params := raw.params.mapText g
    body := raw.body.map (Value.mapText g) }

theorem getD_null_mapText (found : Option Value) :
    (found.map (Value.mapText g)).getD .null = (found.getD .null).mapText g := by
  cases found <;> rfl

/-- A value fits a field of a call just as well when the texts in it are changed that are
rendered. -/
theorem check_change {field : Field} (h : field ∈ callFields) (v : Value) :
    field.check ((FieldUse.of field.name).change id g v) = field.check v := by
  have hverbatim {name : String} {α : Type} (huse : FieldUse.of name = .verbatim)
      (shape : Shape α) : shape ((FieldUse.of name).change id g v) = shape v := by
    rw [huse, FieldUse.change, Value.mapText_id]
  simp only [callFields, List.mem_cons, List.not_mem_nil, or_false] at h
  rcases h with rfl | rfl | rfl | rfl | rfl | rfl | rfl | rfl
  · cases v <;> rfl
  · cases v <;> rfl
  · exact congrArg (Except.map _) (hverbatim (by decide) Requirements.ofValue)
  · cases v <;> rfl
  · rfl
  · exact congrArg (Except.map _) (hverbatim (by decide) (Shape.nullable Shape.text))
  · cases v <;> rfl
  · exact congrArg (Except.map _) (hverbatim (by decide) (Shape.nullable rawTransform))

/-- A call given as a list is changed as the call is that has its values under their names. -/
theorem named_retext (count index : Nat) {fields : List Field}
    (hfields : ∀ field ∈ fields, field ∈ callFields) (values : List Value) :
    Field.named count index fields (Value.retextListed id g fields values)
      = (Field.named count index fields values).map (Dict.retext g) := by
  induction fields generalizing index values with
  | nil => cases values <;> rfl
  | cons field fields ih =>
      obtain ⟨hfield, hrest⟩ := List.forall_mem_cons.1 hfields
      cases values with
      | nil =>
          have hnil := ih (index + 1) hrest []
          rw [Value.retextListed_nil] at hnil
          rw [Value.retextListed_nil, Field.named]
          cases field.needed with
          | true => rfl
          | false => exact hnil
      | cons v values =>
          have hnested : nestedFields.contains field.name = false :=
            (by decide : ∀ field ∈ callFields, nestedFields.contains field.name = false)
              field hfield
          rw [Value.retextListed, Field.named, Field.named, check_change g hfield,
            ih (index + 1) hrest, map_after_bind]
          refine congrArg _ (funext fun _ => ?_)
          rw [bind_after_map, map_after_bind]
          refine congrArg _ (funext fun rest => ?_)
          rw [map_after_pure, Dict.retext, Dict.retext, Dict.mapFields, Dict.mapFields,
            List.map_cons, Value.retextField_of_not_nested _ _ hnested]

theorem record_retext (v : Value) :
    Shape.record callFields (v.retextItem id g)
      = (Shape.record callFields v).map (Dict.retext g) := by
  cases v with
  | object members =>
      rw [Value.retextItem_object]
      rfl
  | list values =>
      rw [Value.retextItem_list, Shape.record_list, Shape.listed, Value.length_retextListed,
        named_retext g _ _ fun _ h => h]
      rfl
  | _ => rfl

theorem rawCall_retext (v : Value) :
    rawCall (v.retextItem id g) = (rawCall v).map (RawCall.retext g) := by
  unfold rawCall
  rw [record_retext, bind_after_map, map_after_bind]
  refine congrArg _ (funext fun fields => ?_)
  simp (disch := decide) only [Dict.field?_retext_verbatim, Dict.nullable?_retext_verbatim,
    Dict.nullable?_retext_any, Dict.nullable?_retext_text, Dict.field?_retext_any,
    Dict.field?_retext_text, bind_after_map, map_after_bind, require_map, map_after_pure,
    RawCall.retext, getD_null_mapText]

theorem targetOf_retext (hempty : g "" = "") (op : String) (needed : Bool) (raw : RawCall) :
    targetOf op needed (raw.retext g) = (targetOf op needed raw).map (CallTarget.retext g) := by
  obtain ⟨provider, category, _, _, _, _, _, _⟩ := raw
  cases provider with
  | some id => rfl
  | none =>
      cases category with
      | some name => rfl
      | none =>
          cases needed with
          | true => rfl
          | false => exact congrArg (fun id => Except.ok (CallTarget.provider id)) hempty.symm

theorem decodeCall_retext (hempty : g "" = "") (op : String) (needed : Bool) (v : Value) :
    decodeCall op needed (v.retextItem id g)
      = (decodeCall op needed v).map (ApiCall.retext g) := by
  unfold decodeCall
  rw [rawCall_retext, shaped_map, bind_after_map, map_after_bind]
  refine congrArg _ (funext fun raw => ?_)
  rw [targetOf_retext g hempty, bind_after_map, map_after_bind]
  refine congrArg _ (funext fun target => ?_)
  obtain ⟨_, _, _, _, _, method, _, transform⟩ := raw
  cases method <;> cases transform <;> simp only [RawCall.retext, map_after_bind] <;> rfl

theorem mapM_decodeCall_retext (hempty : g "" = "") (op : String) (needed : Bool)
    (calls : List Value) :
    (calls.map (Value.retextItem id g)).mapM (decodeCall op needed)
      = (calls.mapM (decodeCall op needed)).map (List.map (ApiCall.retext g)) := by
  rw [List.mapM_map, ← mapM_map_result]
  exact congrArg (List.mapM · calls) (funext (decodeCall_retext g hempty op needed))

/-- A list of records is read from the changed records, if each record is. -/
theorem list_retextField {α : Type} {g : String → String} {name : String} {item : Shape α}
    {h : α → α} (hname : nestedFields.contains name = true ∧ FieldUse.of name = .verbatim)
    (hitem : ∀ v, item (v.retextItem id g) = (item v).map h) (v : Value) :
    Shape.list item (v.retextField id g name) = (Shape.list item v).map (List.map h) := by
  cases v with
  | list items =>
      rw [Value.retextField_list _ _ hname.1]
      change (items.map (Value.retextItem id g)).mapM item = (items.mapM item).map (List.map h)
      rw [List.mapM_map, ← mapM_map_result]
      exact congrArg (List.mapM · items) (funext hitem)
  | _ =>
      rw [Value.retextField_of_not_list id g (by intro items hlist; cases hlist), hname.2]
      rfl

theorem callsField_retext (fields : Dict Value) :
    callsField (fields.retext g)
      = (callsField fields).map (Option.map (List.map (Value.retextItem id g))) :=
  Dict.field?_mapFields_of (list_retextField (by decide) fun _ => rfl) fields

theorem rawError_retext (fields : Dict Value) :
    rawError (fields.retext g)
      = (rawError fields).map fun p => ({ p.1 with message := g p.1.message }, p.2) := by
  unfold rawError
  simp (disch := decide) only [Dict.field?_retext_verbatim, Dict.nullable?_retext_verbatim,
    Dict.field?_retext_text, bind_after_map, map_after_bind, require_map, map_after_pure]

/-- What is done with a record that is read differs as the record does. -/
theorem shaped_bind {α β : Type} {op : String} {raw raw' : Except ShapeError α} {h : α → α}
    (hraw : raw' = raw.map h) (next : α → Except Failure β) :
    (shaped op raw' >>= next) = shaped op raw >>= fun a => next (h a) := by
  rw [hraw, shaped_map, bind_after_map]

theorem decodeAct_retext (hempty : g "" = "") (op : String) (fields : Dict Value) (tag : ActTag) :
    decodeAct op (fields.retext g) tag = (decodeAct op fields tag).map (Act.retext g) := by
  cases tag with
  | apiCall =>
      have hcall := decodeCall_retext g hempty op true (.object fields)
      rw [Value.retextItem_object] at hcall
      change (decodeCall op true (.object (fields.mapFields (Value.retextField id g)))).map Act.call
        = _
      rw [hcall, decodeAct]
      cases decodeCall op true (.object fields) <;> rfl
  | parallelApiCalls =>
      simp only [decodeAct, map_after_bind]
      refine (shaped_bind (h := List.map (Value.retextItem id g)) ?_ _).trans
        (congrArg _ (funext fun calls => ?_))
      · simp only [callsField_retext, bind_after_map, map_after_bind, require_map]
      · simp only [mapM_decodeCall_retext g hempty, bind_after_map, map_after_pure, Act.retext]
  | batchApiCalls =>
      simp only [decodeAct, map_after_bind]
      refine (shaped_bind (h := fun p : String × List Value =>
        (g p.1, p.2.map (Value.retextItem id g))) ?_ _).trans (congrArg _ (funext fun p => ?_))
      · simp (disch := decide) only [callsField_retext, Dict.field?_retext_text, bind_after_map,
          map_after_bind, require_map, map_after_pure]
      · simp only [mapM_decodeCall_retext g hempty, bind_after_map, map_after_pure, Act.retext]
  | calculate =>
      simp only [decodeAct, map_after_bind]
      refine shaped_bind (h := fun p : String × Value => (p.1, p.2.mapText g)) ?_ _
      simp (disch := decide) only [Dict.field?_retext_verbatim, Dict.field?_retext_any,
        bind_after_map, map_after_bind, map_after_pure, getD_null_mapText]
  | formatResponse =>
      simp only [decodeAct, map_after_bind]
      refine shaped_bind (h := g) ?_ _
      simp (disch := decide) only [Dict.field?_retext_text, bind_after_map, map_after_bind,
        require_map]
  | transform =>
      simp (disch := decide) only [decodeAct, Dict.field?_retext_verbatim,
        Dict.nullable?_retext_verbatim, map_after_bind, map_after_pure, Act.retext]
  | error =>
      simp only [decodeAct, map_after_bind]
      refine (shaped_bind (rawError_retext g fields) _).trans (congrArg _ (funext fun raw => ?_))
      obtain ⟨e, word⟩ := raw
      cases word with
      | none => rfl
      | some word =>
          cases hkind : FailureKind.ofName? word with
          | none => simp only [hkind]; rfl
          | some kind => simp only [hkind]; rfl

theorem stepOfValue_retext (v : Value) :
    Step.ofValue (v.retextItem id g) = (Step.ofValue v).map (Step.retext id g) := by
  cases v with
  | object members =>
      have hfree : ∀ members : Dict Value,
          Dict.ofEntries ((members.retext g).filter fun m => !Step.reserved.contains m.1)
            = (Dict.ofEntries (members.filter fun m => !Step.reserved.contains m.1)).retext g := by
        intro members
        rw [Dict.retext, Dict.retext, Dict.mapFields_ofEntries,
          Dict.mapFields_filter _ fun name => !Step.reserved.contains name]
      rw [Value.retextItem_object]
      change Step.ofValue (.object (Dict.retext g members)) = _
      unfold Step.ofValue
      simp (disch := decide) only [members_object, pure_bind, Dict.field?_retext_verbatim,
        Dict.nullable?_retext_verbatim, map_after_bind, map_after_pure, hfree, Step.retext,
        Option.map_id]
      rfl
  | _ => rfl

theorem secondSpelling_retext {α : Type} {fields : Dict Value} {name second : String}
    {shape : Shape α} {h : α → α} (first : Option α)
    (hsecond : (fields.retext g).field? second shape
      = (fields.field? second shape).map (Option.map h)) :
    secondSpelling (fields.retext g) name second shape (first.map h)
      = (secondSpelling fields name second shape first).map (Option.map h) := by
  cases first with
  | none => exact hsecond
  | some a =>
      simp only [secondSpelling, Option.map_some, Dict.retext, Dict.contains_mapFields]
      split <;> rfl

theorem rawConditional_retext (fields : Dict Value) :
    rawConditional (fields.retext g)
      = (rawConditional fields).map fun p =>
          (FieldUse.condition.change id g p.1, p.2.1.map (Step.retext id g),
            p.2.2.map (Step.retext id g)) := by
  have hbranch : ∀ name, (nestedFields.contains name = true ∧ FieldUse.of name = .verbatim) →
      (fields.retext g).field? name (Shape.list Step.ofValue)
        = (fields.field? name (Shape.list Step.ofValue)).map
            (Option.map (List.map (Step.retext id g))) :=
    fun name hname =>
      Dict.field?_mapFields_of (list_retextField hname (stepOfValue_retext g)) fields
  have hcondition : (fields.retext g).field? "condition" Shape.any
      = (fields.field? "condition" Shape.any).map
          (Option.map (FieldUse.condition.change id g)) := by
    refine Dict.field?_mapFields_of (fun v => ?_) fields
    rw [Value.retextField_of_not_nested id g (by decide)]
    rfl
  have hspelling : ∀ name second first,
      (nestedFields.contains second = true ∧ FieldUse.of second = .verbatim) →
      secondSpelling (fields.retext g) name second (Shape.list Step.ofValue)
          (first.map (List.map (Step.retext id g)))
        = (secondSpelling fields name second (Shape.list Step.ofValue) first).map
            (Option.map (List.map (Step.retext id g))) :=
    fun _ second first hsecond => secondSpelling_retext g first (hbranch second hsecond)
  have hgetD : ∀ found : Option (List Step), (found.map (List.map (Step.retext id g))).getD []
      = (found.getD []).map (Step.retext id g) := by
    intro found
    cases found <;> rfl
  unfold rawConditional
  simp (disch := decide) only [hcondition, hbranch, bind_after_map, map_after_bind, require_map,
    map_after_pure, hspelling, hgetD]

/-! ## Reading steps -/

theorem decodeStep_retext (hempty : g "" = "") {hasAction : String → Bool}
    {branch : List Step → Except Failure (List Node)}
    (hbranch : ∀ steps, branch (steps.map (Step.retext id g)) = (branch steps).map (retextAll g))
    (s : Step) :
    decodeStep hasAction branch (s.retext id g)
      = (decodeStep hasAction branch s).map (retext g) := by
  have hfields : (s.retext id g).fields = Dict.retext g s.fields := rfl
  have hhead : (⟨(s.retext id g).op, (s.retext id g).assignTo, (s.retext id g).returns⟩ : StepHead)
      = ⟨s.op, s.assignTo, s.returns⟩ := by
    simp [Step.retext]
  have hop : (s.retext id g).op = s.op := rfl
  unfold decodeStep
  rw [hhead, hfields, hop]
  cases Tag.ofName? s.op with
  | none =>
      cases isAction hasAction s.op with
      | false => rfl
      | true =>
          simp (disch := decide) only [Dict.field?_retext_any, shaped_map, bind_after_map,
            map_after_bind, map_after_pure, getD_null_mapText, retext, Act.retext, if_true]
  | some tag =>
      cases tag with
      | act tag =>
          simp only [decodeAct_retext g hempty, bind_after_map, map_after_bind, map_after_pure,
            retext]
      | conditional =>
          simp only [rawConditional_retext, shaped_map, hbranch, bind_after_map, map_after_bind,
            map_after_pure, retext]

/-- Steps whose templates are changed are read as before, with the same changes in what is read. -/
theorem decode_retext (hempty : g "" = "") (hasAction : String → Bool) (limit : Nat)
    (steps : List Step) :
    decode hasAction limit (steps.map (Step.retext id g))
      = (decode hasAction limit steps).map (retextAll g) := by
  suffices hwithin : ∀ levels steps, decodeWithin hasAction limit levels
      (steps.map (Step.retext id g))
        = (decodeWithin hasAction limit levels steps).map (retextAll g) from hwithin _ steps
  intro levels
  induction levels with
  | zero => exact fun _ => rfl
  | succ levels ih =>
      intro steps
      rw [decodeWithin, decodeWithin, List.mapM_map, funext (retextAll_eq g), ← mapM_map_result]
      exact congrArg (List.mapM · steps) (funext (decodeStep_retext g hempty ih))

end Node

end Planwright
