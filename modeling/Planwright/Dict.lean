set_option autoImplicit false

/-!
# Finite maps from names

Two ways of keeping entries under names, both as plain lists of pairs.

* A *sorted* dictionary is kept in rising order of its keys, compared by code points.  It has one
  representation for each content, so that equality of dictionaries is equality of contents.
* An *ordered* dictionary keeps the order in which names were first put; a name that is put
  again keeps its place.

Looking up is the same for both.
-/

namespace Planwright

/-- Entries under names. -/
abbrev Dict (α : Type) : Type := List (String × α)

namespace Dict

variable {α β : Type}

/-- The entry under a name. -/
def get? (d : Dict α) (key : String) : Option α :=
  match d with
  | [] => none
  | (k, v) :: rest => if k = key then some v else get? rest key

/-- Whether there is an entry under the name. -/
def contains (d : Dict α) (key : String) : Bool := (d.get? key).isSome

/-- The names, in the order of the entries. -/
def keys (d : Dict α) : List String := d.map Prod.fst

/-- The entries without the one under `key`. -/
def erase (d : Dict α) (key : String) : Dict α := d.filter fun e => e.1 != key

/-- The same names with changed entries. -/
def mapValues (f : α → β) (d : Dict α) : Dict β := d.map fun e => (e.1, f e.2)

@[simp] theorem get?_nil (key : String) : get? ([] : Dict α) key = none := rfl

theorem get?_cons (k key : String) (v : α) (d : Dict α) :
    get? ((k, v) :: d) key = if k = key then some v else get? d key := rfl

theorem get?_append (d d' : Dict α) (key : String) :
    get? (d ++ d') key = (d.get? key).or (d'.get? key) := by
  induction d with
  | nil => rfl
  | cons e d ih =>
    obtain ⟨k, v⟩ := e
    rw [List.cons_append, get?_cons, get?_cons]
    split
    · rfl
    · exact ih

theorem get?_eq_none_iff {d : Dict α} {key : String} : d.get? key = none ↔ key ∉ d.keys := by
  induction d with
  | nil => simp [keys]
  | cons e d ih =>
    obtain ⟨k, v⟩ := e
    by_cases h : k = key
    · simp [get?_cons, keys, h]
    · simp only [get?_cons, h, if_false, ih, keys, List.map_cons, List.mem_cons, not_or]
      exact ⟨fun hk => ⟨Ne.symm h, hk⟩, fun hk => hk.2⟩

theorem mem_of_get? {d : Dict α} {key : String} {v : α} (h : d.get? key = some v) :
    (key, v) ∈ d := by
  induction d with
  | nil => simp at h
  | cons e d ih =>
    obtain ⟨k, w⟩ := e
    rw [get?_cons] at h
    split at h
    · next hk => simp_all
    · exact List.mem_cons_of_mem _ (ih h)

theorem contains_iff {d : Dict α} {key : String} : d.contains key = true ↔ key ∈ d.keys := by
  unfold contains
  cases hget : d.get? key with
  | none => simp [get?_eq_none_iff.1 hget]
  | some v => exact ⟨fun _ => List.mem_map_of_mem (mem_of_get? hget), fun _ => rfl⟩

theorem get?_mapValues (f : α → β) (d : Dict α) (key : String) :
    (d.mapValues f).get? key = (d.get? key).map f := by
  induction d with
  | nil => rfl
  | cons e d ih =>
    obtain ⟨k, v⟩ := e
    simp only [mapValues, List.map_cons] at ih ⊢
    by_cases h : k = key
    · simp [get?_cons, h]
    · simpa [get?_cons, h] using ih

@[simp] theorem keys_mapValues (f : α → β) (d : Dict α) : (d.mapValues f).keys = d.keys := by
  simp [keys, mapValues, Function.comp_def]

theorem get?_erase_self (d : Dict α) (key : String) : (d.erase key).get? key = none := by
  rw [get?_eq_none_iff]
  simp [keys, erase]

theorem get?_erase_of_ne {d : Dict α} {key other : String} (h : other ≠ key) :
    (d.erase key).get? other = d.get? other := by
  induction d with
  | nil => rfl
  | cons e d ih =>
    obtain ⟨k, v⟩ := e
    by_cases hk : k = key
    · subst hk
      have hf : erase ((k, v) :: d) k = erase d k := by simp [erase]
      rw [hf, ih, get?_cons, if_neg (Ne.symm h)]
    · have hf : erase ((k, v) :: d) key = (k, v) :: erase d key := by simp [erase, hk]
      rw [hf, get?_cons, get?_cons, ih]

theorem mem_keys_erase_iff {d : Dict α} {key name : String} :
    name ∈ (d.erase key).keys ↔ name ≠ key ∧ name ∈ d.keys := by
  by_cases h : name = key
  · subst h
    simp [get?_eq_none_iff.1 (get?_erase_self d name)]
  · rw [← contains_iff, ← contains_iff, contains, contains, get?_erase_of_ne h]
    simp [h]

/-- Erasing one name before others is erasing all of them. -/
theorem filter_erase (d : Dict α) (key : String) (names : List String) :
    ((d.erase key).filter fun e => e.1 ∉ names) = d.filter fun e => e.1 ∉ key :: names := by
  rw [erase, List.filter_filter]
  refine List.filter_congr fun e _ => ?_
  by_cases h : e.1 = key <;> simp [h]

/-! ## Sorted dictionaries -/

/-- Puts an entry in its sorted place, over an earlier one under the same name. -/
def put (key : String) (value : α) : Dict α → Dict α
  | [] => [(key, value)]
  | (k, v) :: rest =>
    if key < k then (key, value) :: (k, v) :: rest
    else if key = k then (key, value) :: rest
    else (k, v) :: put key value rest

/-- The sorted dictionary with the given entries, a later one winning over an earlier. -/
def ofEntries (entries : List (String × α)) : Dict α :=
  entries.foldl (fun d e => d.put e.1 e.2) []

/-- The names rise strictly. -/
def Sorted (d : Dict α) : Prop := d.Pairwise fun a b => a.1 < b.1

theorem get?_put_self (key : String) (value : α) (d : Dict α) :
    (d.put key value).get? key = some value := by
  induction d with
  | nil => simp [put, get?_cons]
  | cons e d ih =>
    obtain ⟨k, v⟩ := e
    simp only [put]
    split
    · simp [get?_cons]
    · split
      · simp [get?_cons]
      · next h => simp [get?_cons, Ne.symm h, ih]

theorem get?_put_of_ne {key other : String} (h : other ≠ key) (value : α) (d : Dict α) :
    (d.put key value).get? other = d.get? other := by
  induction d with
  | nil => simp [put, get?_cons, Ne.symm h]
  | cons e d ih =>
    obtain ⟨k, v⟩ := e
    simp only [put]
    split
    · simp [get?_cons, Ne.symm h]
    · split
      · next hk => subst hk; simp [get?_cons, Ne.symm h]
      · simp only [get?_cons, ih]

/-! ## Ordered dictionaries -/

/-- Puts an entry at the end, or over an earlier one under the same name in its place. -/
def place (key : String) (value : α) : Dict α → Dict α
  | [] => [(key, value)]
  | (k, v) :: rest =>
    if k = key then (key, value) :: rest else (k, v) :: place key value rest

theorem get?_place_self (key : String) (value : α) (d : Dict α) :
    (d.place key value).get? key = some value := by
  induction d with
  | nil => simp [place, get?_cons]
  | cons e d ih =>
    obtain ⟨k, v⟩ := e
    simp only [place]
    split
    · simp [get?_cons]
    · next h => simp [get?_cons, h, ih]

theorem get?_place_of_ne {key other : String} (h : other ≠ key) (value : α) (d : Dict α) :
    (d.place key value).get? other = d.get? other := by
  induction d with
  | nil => simp [place, get?_cons, Ne.symm h]
  | cons e d ih =>
    obtain ⟨k, v⟩ := e
    simp only [place]
    split
    · next hk => subst hk; simp [get?_cons, Ne.symm h]
    · simp only [get?_cons, ih]

theorem keys_place_of_mem {key : String} {d : Dict α} (h : key ∈ d.keys) (value : α) :
    (d.place key value).keys = d.keys := by
  induction d with
  | nil => cases h
  | cons e d ih =>
    obtain ⟨k, v⟩ := e
    simp only [place]
    split
    · next hk => subst hk; rfl
    · next hk =>
      have hmem : key ∈ keys d := by
        rcases List.mem_cons.1 h with heq | hmem
        · exact absurd heq.symm hk
        · exact hmem
      have htail := ih hmem
      simp only [keys, List.map_cons] at htail ⊢
      rw [htail]

theorem keys_place_of_notMem {key : String} {d : Dict α} (h : key ∉ d.keys) (value : α) :
    (d.place key value).keys = d.keys ++ [key] := by
  induction d with
  | nil => rfl
  | cons e d ih =>
    obtain ⟨k, v⟩ := e
    simp only [keys, List.map_cons, List.mem_cons, not_or] at h
    have htail := ih h.2
    simp only [place, if_neg (Ne.symm h.1)]
    simp only [keys, List.map_cons, List.cons_append] at htail ⊢
    rw [htail]

/-- Changes the entry under a name, if there is one. -/
def adjust (key : String) (f : α → α) (d : Dict α) : Dict α :=
  d.map fun e => if e.1 = key then (e.1, f e.2) else e

end Dict

end Planwright
