import Planwright.Proofs.Capability.Operations

set_option autoImplicit false

/-!
# Looking up providers

A provider that is found is registered under the name by which it was sought, and a change to one
entry is seen by looking up this one only.
-/

namespace Planwright

theorem ProviderEntry.id_tryAdmit (e : ProviderEntry) (now : Nat) :
    (e.tryAdmit now).2.id = e.id := by
  unfold tryAdmit
  split <;> rfl

namespace Providers

variable {r : Providers} {id other : String} {f : ProviderEntry → ProviderEntry}

theorem id_of_find? {e : ProviderEntry} (h : r.find? id = some e) : e.id = id := by
  simpa using List.find?_some h

theorem mem_ids_of_mem {e : ProviderEntry} (h : e ∈ r.entries) : e.id ∈ r.ids :=
  List.mem_map_of_mem h

theorem mem_ids_iff : id ∈ r.ids ↔ ∃ e, r.find? id = some e := by
  rw [← contains_iff, ← Option.isSome_iff_exists, find?, List.find?_isSome, contains,
    List.any_eq_true]

/-- Where names are unique, every entry is found by its name. -/
theorem find?_of_mem (hunique : r.ids.Nodup) {e : ProviderEntry} (h : e ∈ r.entries) :
    r.find? e.id = some e := by
  obtain ⟨d, hd⟩ := mem_ids_iff.1 (mem_ids_of_mem h)
  obtain rfl : d = e :=
    List.inj_on_of_nodup_map hunique (List.mem_of_find?_eq_some hd) h (id_of_find? hd)
  exact hd

/-! ## Choosing -/

theorem mem_of_foldl_better {config : SelectorConfig} {now : Nat} {candidates : List ProviderEntry}
    {best : Option (Float × ProviderEntry)} {score : Float} {e : ProviderEntry}
    (h : candidates.foldl (better config now) best = some (score, e)) :
    e ∈ candidates ∨ ∃ top, best = some (top, e) := by
  induction candidates generalizing best with
  | nil => exact .inr ⟨score, h⟩
  | cons d candidates ih =>
      rcases ih h with hmem | ⟨top, hbest⟩
      · exact .inl (List.mem_cons_of_mem d hmem)
      · have hchosen : d = e ∨ ∃ top, best = some (top, e) := by
          unfold better at hbest
          split at hbest
          · exact .inl (Prod.mk.inj (Option.some.inj hbest)).2
          · next top chosen =>
            dsimp only at hbest
            split at hbest
            · exact .inl (Prod.mk.inj (Option.some.inj hbest)).2
            · exact .inr ⟨top, by rw [(Prod.mk.inj (Option.some.inj hbest)).2]⟩
        rcases hchosen with rfl | hchosen
        · exact .inl List.mem_cons_self
        · exact .inr hchosen

/-- The provider that is chosen is one of the registered ones. -/
theorem mem_of_selectBest {now : Nat} {category : String} {requirements : Requirements}
    {e : ProviderEntry} (h : r.selectBest now category requirements = .ok e) : e ∈ r.entries := by
  unfold selectBest at h
  split at h
  · next score d hbest =>
    obtain rfl := Except.ok.inj h
    rcases mem_of_foldl_better hbest with hmem | ⟨top, hnone⟩
    · exact (List.mem_filter.1 hmem).1
    · cases hnone
  · cases h

theorem mem_of_require {e : ProviderEntry} (h : r.require id = .ok e) : e ∈ r.entries := by
  unfold require at h
  split at h
  · next d hfound =>
    obtain rfl := Except.ok.inj h
    exact List.mem_of_find?_eq_some hfound
  · cases h

/-! ## Changing -/

/-- An entry that is changed keeps its place. -/
theorem find?_adjust (hf : ∀ e, e.id = id → (f e).id = id) :
    (r.adjust id f).find? other = (r.find? other).map fun e => if e.id = id then f e else e := by
  have hname : ((·.id == other) ∘ fun e => if e.id = id then f e else e)
      = fun e : ProviderEntry => e.id == other := by
    funext e
    by_cases he : e.id = id
    · rw [Function.comp_apply, if_pos he, hf e he, he]
    · rw [Function.comp_apply, if_neg he]
  rw [find?, adjust, List.find?_map, hname]
  rfl

theorem find?_adjust_self {e : ProviderEntry} (hf : ∀ e, e.id = id → (f e).id = id)
    (h : r.find? id = some e) : (r.adjust id f).find? id = some (f e) := by
  rw [find?_adjust hf, h, Option.map_some, if_pos (id_of_find? h)]

theorem find?_adjust_of_ne (hf : ∀ e, e.id = id → (f e).id = id) (hne : other ≠ id) :
    (r.adjust id f).find? other = r.find? other := by
  rw [find?_adjust hf]
  cases h : r.find? other with
  | none => rfl
  | some e => rw [Option.map_some, if_neg (id_of_find? h ▸ hne)]

theorem ids_adjust (hf : ∀ e, e.id = id → (f e).id = id) : (r.adjust id f).ids = r.ids := by
  rw [ids, ids, adjust, List.map_map]
  refine List.map_congr_left fun e _ => ?_
  by_cases he : e.id = id
  · rw [Function.comp_apply, if_pos he, hf e he, he]
  · rw [Function.comp_apply, if_neg he]

/-- Where names are unique, an entry that is put in its own place changes nothing. -/
theorem adjust_self (hunique : r.ids.Nodup) {e : ProviderEntry} (h : r.find? id = some e) :
    r.adjust id (fun _ => e) = r := by
  have hentries :
      r.entries.map (fun d => if d.id = id then e else d) = r.entries.map fun d => d := by
    refine List.map_congr_left fun d hd => ?_
    split
    · next hid =>
      have hfound := find?_of_mem hunique hd
      rw [hid, h] at hfound
      exact Option.some.inj hfound
    · rfl
  rw [adjust, hentries, List.map_id']

end Providers

end Planwright
