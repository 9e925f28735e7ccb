import Mathlib.Data.String.Basic
import Planwright.Proofs.Value.Fields

set_option autoImplicit false

/-!
# Sorted dictionaries

Entries that are put one after the other make a sorted dictionary (`sorted_ofEntries`), and a sorted
dictionary is known by what is found in it (`Sorted.ext`).  So it is made of its own entries again,
in whatever order they are put.
-/

namespace Planwright.Dict

variable {α : Type} {d : Dict α} {key : String}

theorem mem_keys_put_iff (value : α) {name : String} :
    name ∈ (d.put key value).keys ↔ name = key ∨ name ∈ d.keys := by
  rw [← contains_iff, ← contains_iff, contains, contains]
  by_cases h : name = key
  · subst h
    simp [get?_put_self]
  · simp [get?_put_of_ne h, h]

theorem mem_keys_ofEntries_iff {entries : Dict α} {name : String} :
    name ∈ (ofEntries entries).keys ↔ name ∈ entries.keys := by
  suffices hfold : ∀ d : Dict α, name ∈ keys (entries.foldl (fun d e => d.put e.1 e.2) d) ↔
      name ∈ entries.keys ∨ name ∈ d.keys from
    (hfold []).trans (or_iff_left List.not_mem_nil)
  induction entries with
  | nil => exact fun d => by simp [keys]
  | cons e entries ih =>
      intro d
      rw [List.foldl_cons, ih, mem_keys_put_iff]
      simp only [keys, List.map_cons, List.mem_cons]
      tauto

theorem get?_filter (keep : String → Bool) (d : Dict α) (key : String) :
    get? (d.filter fun e => keep e.1) key = if keep key then d.get? key else none := by
  induction d with
  | nil => simp
  | cons e d ih =>
      obtain ⟨k, v⟩ := e
      by_cases hk : k = key
      · subst hk
        cases hkeep : keep k with
        | true => simp [hkeep, get?_cons]
        | false => simpa [hkeep] using ih
      · cases hkeep : keep k with
        | true => simpa [hkeep, get?_cons, hk] using ih
        | false => simpa [hkeep, get?_cons, hk] using ih

/-! ## What is sorted -/

theorem Sorted.filter (h : d.Sorted) (keep : String × α → Bool) : Sorted (d.filter keep) :=
  List.Pairwise.filter keep h

/-- Only the names matter. -/
theorem sorted_iff_keys : d.Sorted ↔ d.keys.Pairwise (· < ·) := List.pairwise_map.symm

/-- No two entries of a sorted dictionary have the same name. -/
theorem Sorted.nodup_keys (h : d.Sorted) : d.keys.Nodup :=
  (sorted_iff_keys.1 h).imp fun hlt => hlt.ne

theorem Sorted.put (h : d.Sorted) (key : String) (value : α) : (d.put key value).Sorted := by
  induction d with
  | nil => exact List.pairwise_singleton _ _
  | cons e d ih =>
      obtain ⟨k, v⟩ := e
      obtain ⟨hfirst, hrest⟩ := List.pairwise_cons.1 h
      rw [Dict.put]
      split
      · next hlt =>
        refine List.pairwise_cons.2 ⟨fun other hother => ?_, h⟩
        rcases List.mem_cons.1 hother with rfl | hother
        · exact hlt
        · exact hlt.trans (hfirst other hother)
      next hnot =>
      split
      · next heq => exact List.pairwise_cons.2 ⟨heq ▸ hfirst, hrest⟩
      · next hne =>
        refine List.pairwise_cons.2 ⟨fun other hother => ?_, ih hrest⟩
        have hname : other.1 ∈ (Dict.put key value d).keys := List.mem_map_of_mem hother
        rcases (mem_keys_put_iff value).1 hname with heq | hmem
        · exact heq ▸ lt_of_le_of_ne (not_lt.1 hnot) (Ne.symm hne)
        · obtain ⟨found, hfound, hsame⟩ := List.mem_map.1 hmem
          exact hsame ▸ hfirst found hfound

theorem sorted_ofEntries (entries : List (String × α)) : (ofEntries entries).Sorted := by
  suffices hfold : ∀ d : Dict α, d.Sorted →
      Sorted (entries.foldl (fun d e => d.put e.1 e.2) d) from hfold [] .nil
  induction entries with
  | nil => exact fun _ h => h
  | cons e entries ih => exact fun d h => ih _ (h.put e.1 e.2)

/-! ## What is known of a sorted dictionary -/

/-- Nothing is found under a name that comes before all others. -/
theorem get?_eq_none_of_lt (h : ∀ e ∈ d, key < e.1) : d.get? key = none := by
  rw [get?_eq_none_iff]
  intro hmem
  obtain ⟨e, he, rfl⟩ := List.mem_map.1 hmem
  exact lt_irrefl _ (h e he)

/-- Sorted dictionaries in which the same is found are the same. -/
theorem Sorted.ext {d' : Dict α} (h : d.Sorted) (h' : d'.Sorted)
    (hget : ∀ key, d.get? key = d'.get? key) : d = d' := by
  -- The first names agree: a smaller one would not be found on the other side.
  induction d generalizing d' with
  | nil =>
      cases d' with
      | nil => rfl
      | cons e' d' =>
          have hfound := hget e'.1
          rw [get?_nil, get?_cons, if_pos rfl] at hfound
          cases hfound
  | cons e d ih =>
      obtain ⟨k, v⟩ := e
      obtain ⟨hfirst, hrest⟩ := List.pairwise_cons.1 h
      cases d' with
      | nil =>
          have hfound := hget k
          rw [get?_nil, get?_cons, if_pos rfl] at hfound
          cases hfound
      | cons e' d' =>
          obtain ⟨k', v'⟩ := e'
          obtain ⟨hfirst', hrest'⟩ := List.pairwise_cons.1 h'
          have hnone {k : String} {v : α} {d : Dict α} {key : String} (hkey : key < k)
              (hbehind : ∀ e ∈ d, k < e.1) : get? ((k, v) :: d) key = none :=
            get?_eq_none_of_lt
              (List.forall_mem_cons.2 ⟨hkey, fun e he => hkey.trans (hbehind e he)⟩)
          obtain rfl : k = k' := by
            rcases lt_trichotomy k k' with hlt | heq | hlt
            · have hfound := hget k
              rw [hnone hlt hfirst', get?_cons, if_pos rfl] at hfound
              cases hfound
            · exact heq
            · have hfound := hget k'
              rw [hnone hlt hfirst, get?_cons, if_pos rfl] at hfound
              cases hfound
          have hvalue := hget k
          rw [get?_cons, get?_cons, if_pos rfl, if_pos rfl] at hvalue
          rw [Option.some.inj hvalue, ih hrest hrest']
          intro key
          by_cases hkey : key = k
          · rw [hkey, get?_eq_none_of_lt hfirst, get?_eq_none_of_lt hfirst']
          · have hfound := hget key
            rwa [get?_cons, get?_cons, if_neg (Ne.symm hkey), if_neg (Ne.symm hkey)] at hfound

theorem Sorted.ofEntries_eq (h : d.Sorted) : ofEntries d = d :=
  (sorted_ofEntries d).ext h (get?_ofEntries h.nodup_keys)

end Planwright.Dict
