import Planwright.Value.View
import Planwright.Proofs.Value.Fields

set_option autoImplicit false

/-!
# Changing the texts inside a value

Texts are changed in their places: the value keeps its form, and its objects keep the names of their
members.  A record whose fields are changed in their places is read as the record itself, by readers
that change what they find in the same way (`field?_mapFields_of`).
-/

namespace Planwright

open Fallible

namespace Value

/-- What a list has to say about its items, and an object about its members, holds of all values. -/
theorem induction {P : Value → Prop} (null : P .null) (bool : ∀ b, P (.bool b))
    (number : ∀ n, P (.number n)) (text : ∀ s, P (.text s))
    (list : ∀ items, (∀ v ∈ items, P v) → P (.list items))
    (object : ∀ members : Dict Value, (∀ m ∈ members, P m.2) → P (.object members)) :
    ∀ v, P v :=
  @Value.rec P (fun items => ∀ v ∈ items, P v) (fun members => ∀ m ∈ members, P m.2)
    (fun m => P m.2) null bool number text list object (fun _ h => nomatch h)
    (fun _ _ hhead htail => List.forall_mem_cons.2 ⟨hhead, htail⟩) (fun _ h => nomatch h)
    (fun _ _ hhead htail => List.forall_mem_cons.2 ⟨hhead, htail⟩) (fun _ _ hvalue => hvalue)

mutual

/-- The texts inside a value, at any depth and in their order.  The names of members are none. -/
def texts : Value → List String
  | .text s => [s]
  | .list items => itemTexts items
  | .object members => memberTexts members
  | _ => []

/-- The texts inside the items of a list. -/
def itemTexts : List Value → List String
  | [] => []
  | v :: rest => texts v ++ itemTexts rest

/-- The texts inside the members of an object. -/
def memberTexts : List (String × Value) → List String
  | [] => []
  | (_, v) :: rest => texts v ++ memberTexts rest

end

mutual

/-- The value with every text in it changed. -/
def mapText (g : String → String) : Value → Value
  | .text s => .text (g s)
  | .list items => .list (mapTextItems g items)
  | .object members => .object (mapTextMembers g members)
  | v => v

/-- The items of a list with every text changed. -/
def mapTextItems (g : String → String) : List Value → List Value
  | [] => []
  | v :: rest => mapText g v :: mapTextItems g rest

/-- The members of an object with every text changed; their names are kept. -/
def mapTextMembers (g : String → String) : List (String × Value) → List (String × Value)
  | [] => []
  | (k, v) :: rest => (k, mapText g v) :: mapTextMembers g rest

end

end Value

/-! ## Fields -/

namespace Dict

/-- The dictionary with every value changed, depending on its name. -/
def mapFields (h : String → Value → Value) (d : Dict Value) : Dict Value :=
  d.map fun m => (m.1, h m.1 m.2)

section

variable (h : String → Value → Value)

theorem get?_mapFields (d : Dict Value) (key : String) :
    (mapFields h d).get? key = (d.get? key).map (h key) := by
  induction d with
  | nil => rfl
  | cons m d ih =>
      obtain ⟨k, v⟩ := m
      have hcons : mapFields h ((k, v) :: d) = (k, h k v) :: mapFields h d := rfl
      rw [hcons, get?_cons, get?_cons, ih]
      by_cases hk : k = key
      · simp [hk]
      · simp [hk]

theorem contains_mapFields (d : Dict Value) (key : String) :
    (mapFields h d).contains key = d.contains key := by
  rw [contains, contains, get?_mapFields, Option.isSome_map]

theorem mapFields_put (key : String) (v : Value) (d : Dict Value) :
    mapFields h (d.put key v) = (mapFields h d).put key (h key v) := by
  induction d with
  | nil => rfl
  | cons m d ih =>
      obtain ⟨k, w⟩ := m
      have hcons : ∀ e (d : Dict Value), mapFields h (e :: d) = (e.1, h e.1 e.2) :: mapFields h d :=
        fun _ _ => rfl
      rw [put, hcons, put]
      split
      · rfl
      · split
        · rfl
        · rw [hcons, ih]

theorem mapFields_ofEntries (entries : Dict Value) :
    mapFields h (ofEntries entries) = ofEntries (mapFields h entries) := by
  suffices hfold : ∀ d : Dict Value,
      mapFields h (entries.foldl (fun d e => d.put e.1 e.2) d)
        = (mapFields h entries).foldl (fun d e => d.put e.1 e.2) (mapFields h d) from hfold []
  induction entries with
  | nil => exact fun _ => rfl
  | cons e entries ih =>
      intro d
      rw [List.foldl_cons, ih, mapFields_put]
      rfl

theorem mapFields_filter (keep : String → Bool) (d : Dict Value) :
    mapFields h (d.filter fun m => keep m.1) = (mapFields h d).filter fun m => keep m.1 := by
  rw [mapFields, mapFields, List.filter_map]
  rfl

end

section

variable {α : Type} {h : String → Value → Value} {shape : Shape α} {key : String}

/-- A field that is changed in its place is read as the field itself, if its shape says so. -/
theorem field?_mapFields_of {g : α → α} (hshape : ∀ v, shape (h key v) = (shape v).map g)
    (d : Dict Value) :
    (mapFields h d).field? key shape = (d.field? key shape).map (Option.map g) := by
  rw [field?, field?, get?_mapFields]
  cases d.get? key with
  | none => rfl
  | some v =>
      dsimp only [Option.map_some]
      rw [hshape]
      cases shape v <;> rfl

theorem nullable?_mapFields_of {g : α → α} (hnull : h key .null = .null)
    (hother : ∀ v, v ≠ .null → h key v ≠ .null)
    (hshape : ∀ v, shape (h key v) = (shape v).map g) (d : Dict Value) :
    (mapFields h d).nullable? key shape = (d.nullable? key shape).map (Option.map g) := by
  have hnullable : ∀ v, Shape.nullable shape (h key v)
      = (Shape.nullable shape v).map (Option.map g) := by
    intro v
    by_cases hv : v = .null
    · rw [hv, hnull]
      rfl
    · have hread : ∀ u, u ≠ .null → Shape.nullable shape u = (shape u).map some := by
        intro u hu
        cases u <;> first | rfl | exact absurd rfl hu
      rw [hread v hv, hread _ (hother v hv), hshape]
      cases shape v <;> rfl
  rw [nullable?, nullable?, field?_mapFields_of hnullable, bind_after_map, map_after_bind]
  cases d.field? key (Shape.nullable shape) with
  | error e => rfl
  | ok found => cases found <;> rfl

/-- A field that is kept is read as before. -/
theorem field?_mapFields_of_eq (hkept : ∀ v, h key v = v) (d : Dict Value) :
    (mapFields h d).field? key shape = d.field? key shape := by
  have hsame : h key = id := funext hkept
  rw [field?, field?, get?_mapFields, hsame, Option.map_id]
  rfl

theorem nullable?_mapFields_of_eq (hkept : ∀ v, h key v = v) (d : Dict Value) :
    (mapFields h d).nullable? key shape = d.nullable? key shape := by
  rw [nullable?, nullable?, field?_mapFields_of_eq hkept]

end

end Dict

theorem require_map {α β : Type} (name : String) (g : α → β) (found : Option α) :
    require name (found.map g) = (require name found).map g := by
  cases found <;> rfl

/-! ## Texts -/

namespace Value

variable (g : String → String)

theorem mapText_list (items : List Value) :
    mapText g (.list items) = .list (items.map (mapText g)) := by
  rw [mapText]
  congr 1
  induction items with
  | nil => rfl
  | cons v rest ih => rw [mapTextItems, List.map_cons, ih]

theorem mapTextMembers_eq (members : Dict Value) :
    mapTextMembers g members = Dict.mapFields (fun _ => mapText g) members := by
  induction members with
  | nil => rfl
  | cons m rest ih =>
      rw [mapTextMembers, ih]
      rfl

theorem mapText_object (members : Dict Value) :
    mapText g (.object members) = .object (Dict.mapFields (fun _ => mapText g) members) := by
  rw [mapText, mapTextMembers_eq]

theorem texts_list (items : List Value) : texts (.list items) = items.flatMap texts := by
  rw [texts]
  induction items with
  | nil => rfl
  | cons v rest ih => rw [itemTexts, List.flatMap_cons, ih]

theorem texts_object (members : Dict Value) :
    texts (.object members) = members.flatMap fun m => texts m.2 := by
  rw [texts]
  induction members with
  | nil => rfl
  | cons m rest ih => rw [memberTexts, List.flatMap_cons, ih]

/-- Changing the texts inside a value changes them one by one. -/
theorem texts_mapText (v : Value) : (v.mapText g).texts = v.texts.map g := by
  induction v using induction with
  | list items ih =>
      rw [mapText_list, texts_list, texts_list, List.flatMap_map, List.map_flatMap]
      exact congrArg List.flatten (List.map_congr_left ih)
  | object members ih =>
      rw [mapText_object, texts_object, texts_object, Dict.mapFields, List.flatMap_map,
        List.map_flatMap]
      exact congrArg List.flatten (List.map_congr_left ih)
  | _ => rfl

theorem mapText_id (v : Value) : v.mapText id = v := by
  induction v using induction with
  | list items ih => rw [mapText_list, List.map_congr_left ih, List.map_id']
  | object members ih =>
      have hsame : Dict.mapFields (fun _ => mapText id) members = members := by
        have hmembers : ∀ m ∈ members, (m.1, mapText id m.2) = m :=
          fun m hm => Prod.ext rfl (ih m hm)
        exact (List.map_congr_left hmembers).trans (List.map_id' members)
      rw [mapText_object, hsame]
  | _ => rfl

theorem mapText_mapText (f : String → String) (v : Value) :
    (v.mapText g).mapText f = v.mapText (f ∘ g) := by
  induction v using induction with
  | list items ih =>
      rw [mapText_list, mapText_list, mapText_list, List.map_map]
      exact congrArg list (List.map_congr_left ih)
  | object members ih =>
      simp only [mapText_object, Dict.mapFields, List.map_map]
      congr 1
      exact List.map_congr_left fun m hm => Prod.ext rfl (ih m hm)
  | _ => rfl

theorem mapText_ne_null {v : Value} (hv : v ≠ .null) : v.mapText g ≠ .null := by
  cases v with
  | null => exact absurd rfl hv
  | _ => exact nofun

/-- What counts as true does not depend on the texts inside a list or an object. -/
theorem isTruthy_mapText {v : Value} (hv : ∀ s, v ≠ .text s) :
    (v.mapText g).isTruthy = v.isTruthy := by
  cases v with
  | text s => exact absurd rfl (hv s)
  | list items => cases items <;> rfl
  | object members => cases members <;> rfl
  | _ => rfl

end Value

end Planwright
