import Planwright.Capability.Catalog
import Planwright.Proofs.Fallible
import Mathlib.Data.List.Nodup

set_option autoImplicit false

/-!
# Operations on a catalog

A catalog is changed by registering a provider, by installing a bundle and by uninstalling a
capability, and an operation that fails changes nothing.  For each of them one lemma says exactly
when it succeeds and what the catalog is then.

Bundles are what the builder makes, so no bundle names an action twice.
-/

namespace Planwright

open Fallible

theorem nodup_concat {names : List String} {name : String} (h : names.Nodup)
    (hnew : name ∉ names) : (names ++ [name]).Nodup := by
  rw [← List.concat_eq_append]
  exact h.concat hnew

/-! ## Bundles -/

namespace Capability

/-- The bundles that can be made. -/
inductive Built : Capability → Prop where
  | new (name version : String) : Built (.new name version)
  | ofManifest (m : CapabilityManifest) : Built (.ofManifest m)
  | withTrigger {c : Capability} (built : Built c) (t : TriggerSpec) : Built (c.withTrigger t)
  | withTemplate {c : Capability} (built : Built c) (name : String) (r : Recipe) :
      Built (c.withTemplate name r)
  | withAction {c : Capability} (built : Built c) (name : String) (a : Action) :
      Built (c.withAction name a)
  | withProvider {c : Capability} (built : Built c) (id : String) (m : Manifest) :
      Built (c.withProvider id m)

theorem nodup_keys_place {α : Type} {d : Dict α} (h : d.keys.Nodup) (key : String) (value : α) :
    (d.place key value).keys.Nodup := by
  by_cases hmem : key ∈ d.keys
  · rwa [Dict.keys_place_of_mem hmem]
  · rw [Dict.keys_place_of_notMem hmem]
    exact nodup_concat h hmem

/-- No bundle names an action twice. -/
theorem Built.nodup_actions {c : Capability} (h : c.Built) : c.actions.keys.Nodup := by
  induction h with
  | new name version => exact List.nodup_nil
  | ofManifest m =>
      have hplaced (names : List String) (d : Dict (Option Action)) (hd : d.keys.Nodup) :
          (names.foldl (fun d a => d.place a none) d : Dict (Option Action)).keys.Nodup := by
        induction names generalizing d with
        | nil => exact hd
        | cons name names ih => exact ih _ (nodup_keys_place hd name none)
      exact hplaced m.actions [] List.nodup_nil
  | withAction built name a ih => exact nodup_keys_place ih name _
  | withTrigger built t ih => exact ih
  | withTemplate built name r ih => exact ih
  | withProvider built id m ih => exact ih

/-- A bundle that passes its checks has no point in its name, and all its actions are bound. -/
theorem sound_of_validate {c : Capability} {triggers : List Trigger}
    (h : c.validate = .ok triggers) :
    '.' ∉ c.name.toList ∧ ∀ a ∈ c.actions, a.2.isSome = true := by
  have hfault : c.fault? = none := by
    unfold validate at h
    cases hfault : c.fault? with
    | none => rfl
    | some f =>
        rw [hfault] at h
        cases h
  unfold fault? at hfault
  split at hfault
  · cases hfault
  split at hfault
  · cases hfault
  next hdot =>
  split at hfault
  · cases hfault
  split at hfault
  · cases hfault
  obtain ⟨-, hactions⟩ := Option.or_eq_none_iff.1 hfault
  refine ⟨by simpa using hdot, fun a ha => ?_⟩
  have hsound := List.findSome?_eq_none_iff.1 hactions a ha
  unfold actionFault? at hsound
  split at hsound
  · cases hsound
  split at hsound
  · cases hsound
  next hbound => exact Option.isSome_iff_ne_none.2 (by simpa using hbound)

end Capability

/-! ## Qualified names -/

namespace Catalog

variable {c d : Capability}

theorem toList_qualified (capability action : String) :
    (qualified capability action).toList = capability.toList ++ '.' :: action.toList := by
  simp [qualified, String.toList_append]

/-- A qualified name says whose action it names. -/
theorem qualified_inj {name other a b : String} (hname : '.' ∉ name.toList)
    (hother : '.' ∉ other.toList) (h : qualified name a = qualified other b) :
    name = other ∧ a = b := by
  have hlist := congrArg String.toList h
  rw [toList_qualified, toList_qualified] at hlist
  obtain ⟨hcapability, haction⟩ := Text.append_cons_inj hname hother hlist
  exact ⟨String.toList_inj.1 hcapability, String.toList_inj.1 haction⟩

/-- The qualified names of the actions of a bundle. -/
def actionNames (c : Capability) : List String := c.actions.keys.map (qualified c.name)

/-- No two bundles of different names have an action of one qualified name. -/
theorem name_eq_of_mem_actionNames (hc : '.' ∉ c.name.toList) (hd : '.' ∉ d.name.toList)
    {name : String} (hmem : name ∈ actionNames c) (hmem' : name ∈ actionNames d) :
    c.name = d.name := by
  obtain ⟨a, -, rfl⟩ := List.mem_map.1 hmem
  obtain ⟨b, -, heq⟩ := List.mem_map.1 hmem'
  exact (qualified_inj hc hd heq.symm).1

theorem nodup_actionNames (built : c.Built) (hc : '.' ∉ c.name.toList) : (actionNames c).Nodup :=
  built.nodup_actions.map fun _ _ heq => (qualified_inj hc hc heq).2

theorem keys_boundActions (h : ∀ a ∈ c.actions, a.2.isSome = true) :
    (boundActions c).keys = actionNames c := by
  unfold boundActions actionNames Dict.keys
  generalize c.actions = actions at h
  induction actions with
  | nil => rfl
  | cons a actions ih =>
      obtain ⟨run, hrun⟩ := Option.isSome_iff_exists.1 (h a List.mem_cons_self)
      have htail := ih fun b hb => h b (List.mem_cons_of_mem _ hb)
      simp only [List.filterMap_cons, hrun, Option.map_some, List.map_cons, htail]

end Catalog

/-! ## Registering providers -/

namespace Providers

/-- The names of the registered providers. -/
def ids (r : Providers) : List String := r.entries.map (·.id)

theorem contains_iff {r : Providers} {id : String} : r.contains id = true ↔ id ∈ r.ids := by
  simp [contains, ids, List.any_eq_true]

/-- A provider is registered if its name is not taken, and stands last then. -/
theorem register_eq_ok {r r' : Providers} {id : String} {m : Manifest}
    (h : r.register id m = .ok r') : id ∉ r.ids ∧ r' = r.add (.new id m none) := by
  unfold register at h
  split at h
  · cases h
  · split at h
    · cases h
    · next hfree => exact ⟨mt contains_iff.2 hfree, (Except.ok.inj h).symm⟩

theorem checkAll_eq_ok {r : Providers} {before : List String} {batch : Dict Manifest}
    (h : r.checkAll before batch = .ok ()) :
    batch.keys.Nodup ∧ ∀ id ∈ batch.keys, id ∉ r.ids ∧ id ∉ before := by
  induction batch generalizing before with
  | nil => exact ⟨List.nodup_nil, fun _ hid => absurd hid List.not_mem_nil⟩
  | cons p batch ih =>
      obtain ⟨id, m⟩ := p
      unfold checkAll at h
      split at h
      · cases h
      · split at h
        · cases h
        · next hfree =>
          simp only [Bool.or_eq_true, not_or, List.contains_iff_mem] at hfree
          obtain ⟨hnodup, hrest⟩ := ih h
          have hkeys : Dict.keys ((id, m) :: batch) = id :: Dict.keys batch := rfl
          rw [hkeys]
          refine ⟨List.nodup_cons.2 ⟨fun hid => ?_, hnodup⟩, fun other hother => ?_⟩
          · exact (hrest id hid).2 List.mem_cons_self
          · rcases List.mem_cons.1 hother with rfl | hother
            · exact ⟨mt contains_iff.2 hfree.1, hfree.2⟩
            · obtain ⟨hids, hbefore⟩ := hrest other hother
              exact ⟨hids, fun hmem => hbefore (List.mem_cons_of_mem _ hmem)⟩

/-- The entries of providers that an owner brings along. -/
def brought (owner : String) (batch : Dict Manifest) : List ProviderEntry :=
  batch.map fun p => .new p.1 p.2 (some owner)

theorem map_id_brought (owner : String) (batch : Dict Manifest) :
    (brought owner batch).map (·.id) = batch.keys := by
  simp [brought, Dict.keys, ProviderEntry.new, Function.comp_def]

theorem owner_of_mem_brought {owner : String} {batch : Dict Manifest} {e : ProviderEntry}
    (h : e ∈ brought owner batch) : e.owner = some owner := by
  obtain ⟨p, -, rfl⟩ := List.mem_map.1 h
  rfl

/-- Providers are registered together if no name of them is taken or comes twice, and stand last
then, in their order. -/
theorem registerAll_eq_ok {r r' : Providers} {owner : String} {batch : Dict Manifest}
    (h : r.registerAll owner batch = .ok r') :
    batch.keys.Nodup ∧ (∀ id ∈ batch.keys, id ∉ r.ids) ∧
      r' = { r with entries := r.entries ++ brought owner batch } := by
  unfold registerAll at h
  split at h
  · cases h
  · next hchecked =>
    obtain ⟨hnodup, hfree⟩ := checkAll_eq_ok hchecked
    exact ⟨hnodup, fun id hid => (hfree id hid).1, (Except.ok.inj h).symm⟩

end Providers

/-! ## Installing and uninstalling -/

namespace Catalog

variable {k k' : Catalog} {c : Capability}

/-- What the catalog keeps of an installed bundle. -/
def recordOf (c : Capability) (triggers : List Trigger) : InstalledCapability :=
  ⟨c.version, triggers, c.templates, (boundActions c).keys, c.providers.keys⟩

/-- The catalog after a bundle is installed. -/
def installed (k : Catalog) (c : Capability) (triggers : List Trigger) (providers : Providers) :
    Catalog :=
  ⟨k.capabilities ++ [(c.name, recordOf c triggers)], k.actions ++ boundActions c, providers⟩

/-- A bundle that passes its checks and whose name is free is installed if the names of its actions
are free too, and its providers can be registered. -/
theorem install_of_validate {triggers : List Trigger} (hvalid : c.validate = .ok triggers)
    (hnew : k.isInstalled c.name = false) :
    k.install c = match (boundActions c).keys.find? k.actions.contains with
      | some taken => .error (.invalid ("custom action '" ++ taken ++ "' is already registered"))
      | none => (k.providers.registerAll c.name c.providers).map (installed k c triggers) := by
  have hfree : k.capabilities.contains c.name = false := hnew
  unfold install
  rw [hvalid]
  simp only [bind, Except.bind, hfree]
  cases (boundActions c).keys.find? k.actions.contains with
  | some taken => rfl
  | none => cases k.providers.registerAll c.name c.providers <;> rfl

/-- What must hold for a bundle to be installed, and the catalog then. -/
theorem install_eq_ok (h : k.install c = .ok k') :
    ∃ triggers providers, c.validate = .ok triggers ∧ k.isInstalled c.name = false ∧
      k.providers.registerAll c.name c.providers = .ok providers ∧
        k' = installed k c triggers providers := by
  cases hvalid : c.validate with
  | error f =>
      unfold install at h
      rw [hvalid] at h
      cases h
  | ok triggers =>
      cases hnew : k.isInstalled c.name with
      | true =>
          have htaken : k.capabilities.contains c.name = true := hnew
          unfold install at h
          simp only [hvalid, bind, Except.bind, htaken] at h
          cases h
      | false =>
          rw [install_of_validate hvalid hnew] at h
          split at h
          · cases h
          · obtain ⟨providers, hproviders, rfl⟩ := map_eq_ok.1 h
            exact ⟨triggers, providers, rfl, rfl, hproviders, rfl⟩

/-- A capability that is installed can be uninstalled, with all that its record names. -/
theorem uninstall_eq_ok {name : String} (h : k.uninstall name = .ok k') :
    ∃ record, k.capabilities.get? name = some record ∧
      k' = ⟨k.capabilities.erase name, k.actions.filter fun a => !record.actions.contains a.1,
        k.providers.removeOwnedBy name⟩ := by
  unfold uninstall at h
  cases hget : k.capabilities.get? name with
  | none =>
      rw [hget] at h
      cases h
  | some record =>
      rw [hget] at h
      exact ⟨record, rfl, (Except.ok.inj h).symm⟩

end Catalog

/-! ## Runs of operations -/

/-- What can be done to a catalog. -/
inductive Operation where
  | register (id : String) (m : Manifest)
  | install (c : Capability) (built : c.Built)
  | uninstall (name : String)

namespace Catalog

/-- Tries an operation. -/
def attempt (k : Catalog) : Operation → Except Failure Catalog
  | .register id m => (k.providers.register id m).map fun p => { k with providers := p }
  | .install c _ => k.install c
  | .uninstall name => k.uninstall name

/-- The catalog after an operation; one that fails leaves it as it was. -/
def step (k : Catalog) (op : Operation) : Catalog := (k.attempt op).toOption.getD k

/-- The catalog after operations one after the other, whether they succeed or fail. -/
def after (k : Catalog) (ops : List Operation) : Catalog := ops.foldl step k

end Catalog

end Planwright
