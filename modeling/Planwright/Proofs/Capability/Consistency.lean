import Planwright.Proofs.Capability.Operations
import Planwright.Proofs.Correspondence
import Mathlib.Algebra.GroupWithZero.Nat
import Mathlib.Data.List.Induction
import Mathlib.Data.List.Nodup

set_option autoImplicit false

/-!
# Consistent catalogs

A catalog keeps what the installed bundles have brought along in three tables, which are changed
apart and looked up by different names.  After every run of operations, from the empty catalog on,
the three agree: each holds exactly what the installed bundles account for (`after_consistent`).

The invariant speaks of the bundles themselves (`Holds`).  One lemma for each operation says what
becomes of them: registering leaves them, installing adds one at the end, uninstalling takes one
away.
-/

namespace Planwright

/-! ## Owners -/

namespace Providers

variable {r : Providers} {owner other : String}

/-- The names of the providers that an owner has brought along. -/
def ownedBy (r : Providers) (owner : String) : List String :=
  (r.entries.filter fun e => e.owner == some owner).map (·.id)

/-- How many providers have an owner. -/
def ownedCount (r : Providers) : Nat := r.entries.countP (·.owner.isSome)

theorem ownedBy_append (r : Providers) (entries : List ProviderEntry) (owner : String) :
    ownedBy { r with entries := r.entries ++ entries } owner
      = r.ownedBy owner ++ ownedBy { r with entries := entries } owner := by
  simp [ownedBy, List.filter_append]

theorem ownedBy_brought_self (config : SelectorConfig) (owner : String) (batch : Dict Manifest) :
    ownedBy ⟨brought owner batch, config⟩ owner = batch.keys := by
  have hall : (brought owner batch).filter (fun e => e.owner == some owner)
      = brought owner batch :=
    List.filter_eq_self.2 fun e he => by simp [owner_of_mem_brought he]
  rw [ownedBy, hall, map_id_brought]

theorem ownedBy_eq_nil (h : ∀ e ∈ r.entries, e.owner ≠ some owner) : r.ownedBy owner = [] := by
  have hnone : r.entries.filter (fun e => e.owner == some owner) = [] :=
    List.filter_eq_nil_iff.2 fun e he => by simp [h e he]
  rw [ownedBy, hnone, List.map_nil]

theorem ownedBy_removeOwnedBy_of_ne (h : other ≠ owner) :
    (r.removeOwnedBy owner).ownedBy other = r.ownedBy other := by
  unfold ownedBy removeOwnedBy
  rw [List.filter_filter]
  congr 1
  refine List.filter_congr fun e _ => ?_
  by_cases heq : e.owner = some other
  · simp [heq, h]
  · simp [heq]

/-- Taking an owner's providers away leaves the others. -/
theorem ownedCount_eq (r : Providers) (owner : String) :
    r.ownedCount = (r.ownedBy owner).length + (r.removeOwnedBy owner).ownedCount := by
  unfold ownedCount ownedBy removeOwnedBy
  induction r.entries with
  | nil => rfl
  | cons e entries ih =>
      cases howner : e.owner with
      | none => simpa [List.countP_cons, howner] using ih
      | some o =>
          by_cases heq : o = owner
          · simp [howner, heq] at ih ⊢
            omega
          · simp [howner, heq] at ih ⊢
            omega

/-- If all owners are known, the providers that have one are those of each of them together. -/
theorem sum_ownedBy {names : List String} (hnodup : names.Nodup) (r : Providers)
    (howners : ∀ e ∈ r.entries, ∀ o, e.owner = some o → o ∈ names) :
    (names.map fun n => (r.ownedBy n).length).sum = r.ownedCount := by
  induction names generalizing r with
  | nil =>
      refine (List.countP_eq_zero.2 fun e he => ?_).symm
      cases howner : e.owner with
      | none => simp
      | some o => exact absurd (howners e he o howner) List.not_mem_nil
  | cons n names ih =>
      obtain ⟨hn, hnames⟩ := List.nodup_cons.1 hnodup
      have hothers : names.map (fun m => (r.ownedBy m).length)
          = names.map fun m => ((r.removeOwnedBy n).ownedBy m).length := by
        refine List.map_congr_left fun m hm => ?_
        rw [ownedBy_removeOwnedBy_of_ne]
        rintro rfl
        exact hn hm
      rw [List.map_cons, List.sum_cons, hothers, ownedCount_eq r n, ih hnames (r.removeOwnedBy n)]
      intro e he o howner
      obtain ⟨hmem, hkept⟩ := List.mem_filter.1 he
      rcases List.mem_cons.1 (howners e hmem o howner) with rfl | ho
      · simp [howner] at hkept
      · exact ho

end Providers

namespace Catalog

/-! ## The invariant -/

/-- What the catalog keeps under the name of a bundle is the bundle's. -/
structure Records (entry : String × InstalledCapability) (c : Capability) : Prop where
  name : entry.1 = c.name
  version : entry.2.version = c.version
  triggers : c.validate = .ok entry.2.triggers
  templates : entry.2.templates = c.templates
  actions : entry.2.actions = actionNames c
  providers : entry.2.providers = c.providers.keys

/-- A catalog holds the bundles that are installed in it, in the order of their installation. -/
structure Holds (k : Catalog) (bundles : List Capability) : Prop where
  records : List.Forall₂ Records k.capabilities bundles
  built : ∀ c ∈ bundles, c.Built
  /-- no two bundles of one name -/
  names : (bundles.map (·.name)).Nodup
  actions : k.actions = bundles.flatMap boundActions
  /-- no two providers of one name -/
  ids : k.providers.ids.Nodup
  owned : ∀ c ∈ bundles, k.providers.ownedBy c.name = c.providers.keys
  owners : ∀ e ∈ k.providers.entries, ∀ o, e.owner = some o → o ∈ bundles.map (·.name)

namespace Holds

variable {k : Catalog} {bundles : List Capability}

theorem keys_eq (h : Holds k bundles) : k.capabilities.keys = bundles.map (·.name) :=
  Correspondence.map_eq (fun _ _ hrecords => hrecords.name) h.records

theorem isInstalled_iff (h : Holds k bundles) {name : String} :
    k.isInstalled name = true ↔ name ∈ bundles.map (·.name) := by
  rw [← h.keys_eq]
  exact Dict.contains_iff

/-- An installed bundle has passed its checks. -/
theorem sound (h : Holds k bundles) {c : Capability} (hc : c ∈ bundles) :
    '.' ∉ c.name.toList ∧ ∀ a ∈ c.actions, a.2.isSome = true := by
  obtain ⟨entry, -, hrecords⟩ := Correspondence.exists_left h.records hc
  exact Capability.sound_of_validate hrecords.triggers

theorem mem_actionNames (h : Holds k bundles) {c : Capability} (hc : c ∈ bundles)
    {a : String × Action} (ha : a ∈ boundActions c) : a.1 ∈ actionNames c := by
  rw [← keys_boundActions (h.sound hc).2]
  exact List.mem_map_of_mem ha

/-- The actions of the bundles under their qualified names. -/
theorem keys_actions (h : Holds k bundles) : k.actions.keys = bundles.flatMap actionNames := by
  rw [h.actions, Dict.keys, List.map_flatMap]
  exact List.flatMap_congr fun c hc => keys_boundActions (h.sound hc).2

/-- No two bundles have brought along an action of one qualified name. -/
theorem nodup_actions (h : Holds k bundles) : k.actions.keys.Nodup := by
  rw [h.keys_actions, List.nodup_flatMap]
  refine ⟨fun c hc => nodup_actionNames (h.built c hc) (h.sound hc).1, ?_⟩
  refine (List.pairwise_map.1 h.names).imp_of_mem fun {c d} hc hd hne name hmem hmem' => ?_
  exact hne (name_eq_of_mem_actionNames (h.sound hc).1 (h.sound hd).1 hmem hmem')

/-- As many providers have an owner as the records of all capabilities name together. -/
theorem counts_providers (h : Holds k bundles) :
    k.counts.providers = k.providers.ownedCount := by
  have hadd (entries : Dict InstalledCapability) (sum : ResourceCounts) :
      (entries.foldl (fun sum c => sum.add c.2.counts) sum).providers
        = sum.providers + (entries.map fun entry => entry.2.providers.length).sum := by
    induction entries generalizing sum with
    | nil => rfl
    | cons entry entries ih =>
        rw [List.foldl_cons, ih, List.map_cons, List.sum_cons, ← Nat.add_assoc]
        rfl
  have hlengths : k.capabilities.map (fun entry => entry.2.providers.length)
      = bundles.map fun c => c.providers.keys.length :=
    Correspondence.map_eq (fun _ _ hrecords => by rw [hrecords.providers]) h.records
  have howned : bundles.map (fun c => c.providers.keys.length)
      = (bundles.map (·.name)).map fun n => (k.providers.ownedBy n).length := by
    rw [List.map_map]
    exact List.map_congr_left fun c hc => by rw [Function.comp_apply, h.owned c hc]
  rw [counts, hadd, hlengths, howned, Providers.sum_ownedBy h.names _ h.owners]
  exact Nat.zero_add _

/-- The names of the actions of a bundle that passes its checks are free if its own name is. -/
theorem actions_free (h : Holds k bundles) {c : Capability} {triggers : List Trigger}
    (hvalid : c.validate = .ok triggers) (hnew : k.isInstalled c.name = false) :
    (boundActions c).keys.find? k.actions.contains = none := by
  obtain ⟨hdot, hbound⟩ := Capability.sound_of_validate hvalid
  rw [List.find?_eq_none, keys_boundActions hbound]
  intro name hname htaken
  rw [Dict.contains_iff, h.keys_actions] at htaken
  obtain ⟨d, hd, hmem⟩ := List.mem_flatMap.1 htaken
  have hsame := name_eq_of_mem_actionNames hdot (h.sound hd).1 hname hmem
  have hinstalled : k.isInstalled c.name = true :=
    h.isInstalled_iff.2 (hsame ▸ List.mem_map_of_mem hd)
  rw [hnew] at hinstalled
  cases hinstalled

end Holds

/-- What is kept of lists put together is what is kept of each, if each is kept or left whole. -/
theorem flatMap_filter_eq {α β : Type} {f g : α → List β} {keep : α → Bool} {xs : List α}
    (h : ∀ x ∈ xs, g x = if keep x then f x else []) :
    xs.flatMap g = (xs.filter keep).flatMap f := by
  induction xs with
  | nil => rfl
  | cons x xs ih =>
      have hrest := ih fun y hy => h y (List.mem_cons_of_mem _ hy)
      rw [List.flatMap_cons, hrest, h x List.mem_cons_self]
      by_cases hx : keep x
      · rw [if_pos hx, List.filter_cons_of_pos hx, List.flatMap_cons]
      · rw [if_neg hx, List.filter_cons_of_neg hx, List.nil_append]

theorem holds_empty (config : SelectorConfig) : Holds (.empty config) [] where
  records := .nil
  built := fun _ hc => absurd hc List.not_mem_nil
  names := List.nodup_nil
  actions := rfl
  ids := List.nodup_nil
  owned := fun _ hc => absurd hc List.not_mem_nil
  owners := fun _ he => absurd he List.not_mem_nil

/-! ## What the operations do to the bundles -/

variable {k k' : Catalog} {bundles : List Capability}

/-- Registering a provider leaves the bundles. -/
theorem holds_register (h : Holds k bundles) {id : String} {m : Manifest} {providers : Providers}
    (hregister : k.providers.register id m = .ok providers) :
    Holds { k with providers := providers } bundles := by
  obtain ⟨hfree, rfl⟩ := Providers.register_eq_ok hregister
  refine { h with ids := ?ids, owned := ?owned, owners := ?owners }
  case ids =>
    have hids : (k.providers.add (.new id m none)).ids = k.providers.ids ++ [id] := by
      simp [Providers.ids, Providers.add, ProviderEntry.new]
    rw [hids]
    exact nodup_concat h.ids hfree
  case owned =>
    intro c hc
    refine (Providers.ownedBy_append _ _ _).trans ?_
    rw [h.owned c hc, Providers.ownedBy_eq_nil, List.append_nil]
    intro e he howner
    rw [List.mem_singleton.1 he] at howner
    cases howner
  case owners =>
    intro e he o howner
    rcases List.mem_append.1 he with he | he
    · exact h.owners e he o howner
    · rw [List.mem_singleton.1 he] at howner
      cases howner

/-- Installing a bundle puts it behind the others. -/
theorem holds_install (h : Holds k bundles) {c : Capability} (built : c.Built)
    (hinstall : k.install c = .ok k') : Holds k' (bundles ++ [c]) := by
  obtain ⟨triggers, providers, hvalid, hnew, hregister, rfl⟩ := install_eq_ok hinstall
  obtain ⟨hkeys, hfree, rfl⟩ := Providers.registerAll_eq_ok hregister
  have hname : c.name ∉ bundles.map (·.name) := by
    rw [← h.isInstalled_iff, hnew]
    decide
  have hbound := (Capability.sound_of_validate hvalid).2
  refine ⟨?records, ?built, ?names, ?actions, ?ids, ?owned, ?owners⟩
  case records =>
    refine List.rel_append h.records (.cons ?_ .nil)
    exact ⟨rfl, rfl, hvalid, rfl, keys_boundActions hbound, rfl⟩
  case built =>
    intro d hd
    rcases List.mem_append.1 hd with hd | hd
    · exact h.built d hd
    · rwa [List.mem_singleton.1 hd]
  case names =>
    rw [List.map_append]
    exact nodup_concat h.names hname
  case actions =>
    rw [List.flatMap_append, List.flatMap_singleton, ← h.actions]
    rfl
  case ids =>
    have hids : (Providers.mk (k.providers.entries ++ Providers.brought c.name c.providers)
        k.providers.config).ids = k.providers.ids ++ c.providers.keys := by
      rw [Providers.ids, List.map_append, Providers.map_id_brought]
      rfl
    refine (congrArg List.Nodup hids).mpr (List.nodup_append.2 ⟨h.ids, hkeys, ?_⟩)
    rintro id hid _ hbrought rfl
    exact hfree id hbrought hid
  case owned =>
    intro d hd
    refine (Providers.ownedBy_append _ _ _).trans ?_
    rcases List.mem_append.1 hd with hd | hd
    · have hne : c.name ≠ d.name := fun heq =>
        hname (heq ▸ List.mem_map_of_mem hd)
      rw [h.owned d hd, Providers.ownedBy_eq_nil, List.append_nil]
      intro e he howner
      rw [Providers.owner_of_mem_brought he] at howner
      exact hne (Option.some.inj howner)
    · rw [List.mem_singleton.1 hd, Providers.ownedBy_eq_nil, List.nil_append]
      · exact Providers.ownedBy_brought_self _ _ _
      · intro e he howner
        exact hname (h.owners e he _ howner)
  case owners =>
    intro e he o howner
    rw [List.map_append]
    rcases List.mem_append.1 he with he | he
    · exact List.mem_append_left _ (h.owners e he o howner)
    · rw [Providers.owner_of_mem_brought he] at howner
      rw [← Option.some.inj howner]
      exact List.mem_append_right _ (List.mem_singleton.2 rfl)

/-- Uninstalling a capability takes its bundle away. -/
theorem holds_uninstall (h : Holds k bundles) {name : String}
    (huninstall : k.uninstall name = .ok k') :
    Holds k' (bundles.filter fun c => c.name != name) := by
  obtain ⟨record, hget, rfl⟩ := uninstall_eq_ok huninstall
  obtain ⟨c, hc, hrecords⟩ := Correspondence.exists_right h.records (Dict.mem_of_get? hget)
  obtain rfl : name = c.name := hrecords.name
  have hactions : record.actions = actionNames c := hrecords.actions
  refine ⟨?records, ?built, ?names, ?actions, ?ids, ?owned, ?owners⟩
  case records =>
    refine List.rel_filter (fun entry d hentry => ?_) h.records
    simp [hentry.name]
  case built =>
    intro d hd
    exact h.built d (List.mem_filter.1 hd).1
  case names => exact ((List.filter_sublist).map _).nodup h.names
  case actions =>
    rw [h.actions, List.filter_flatMap, hactions]
    refine flatMap_filter_eq fun d hd => ?_
    split
    · next hne =>
      refine List.filter_eq_self.2 fun a ha => ?_
      have hother : a.1 ∉ actionNames c := fun hmem =>
        absurd (name_eq_of_mem_actionNames (h.sound hd).1 (h.sound hc).1
          (h.mem_actionNames hd ha) hmem) (by simpa using hne)
      simpa using hother
    · next heq =>
      obtain rfl : d = c := List.inj_on_of_nodup_map h.names hd hc (by simpa using heq)
      refine List.filter_eq_nil_iff.2 fun a ha => ?_
      simpa using h.mem_actionNames hd ha
  case ids => exact ((List.filter_sublist).map _).nodup h.ids
  case owned =>
    intro d hd
    obtain ⟨hmem, hne⟩ := List.mem_filter.1 hd
    rw [← h.owned d hmem]
    exact Providers.ownedBy_removeOwnedBy_of_ne (by simpa using hne)
  case owners =>
    intro e he o howner
    obtain ⟨hmem, hkept⟩ := List.mem_filter.1 he
    obtain ⟨d, hd, rfl⟩ := List.mem_map.1 (h.owners e hmem o howner)
    refine List.mem_map_of_mem (List.mem_filter.2 ⟨hd, ?_⟩)
    rw [howner] at hkept
    simpa using hkept

/-- After an operation the catalog holds the bundles it held before, but for one that is installed
by it or taken away. -/
theorem exists_holds_step (h : Holds k bundles) (op : Operation) :
    ∃ others, Holds (k.step op) others ∧
      ∀ c ∈ others, c ∈ bundles ∨ ∃ built, op = .install c built := by
  unfold step
  cases hattempt : k.attempt op with
  | error f => exact ⟨bundles, h, fun _ hc => .inl hc⟩
  | ok k' =>
      cases op with
      | register id m =>
          obtain ⟨providers, hregister, rfl⟩ := Fallible.map_eq_ok.1 hattempt
          exact ⟨bundles, holds_register h hregister, fun _ hc => .inl hc⟩
      | install c built =>
          refine ⟨_, holds_install h built hattempt, fun d hd => ?_⟩
          rcases List.mem_append.1 hd with hd | hd
          · exact .inl hd
          · obtain rfl := List.mem_singleton.1 hd
            exact .inr ⟨built, rfl⟩
      | uninstall name =>
          exact ⟨_, holds_uninstall h hattempt, fun d hd => .inl (List.mem_filter.1 hd).1⟩

/-- After every run of operations the catalog holds bundles that were installed in it. -/
theorem exists_holds_after (config : SelectorConfig) (ops : List Operation) :
    ∃ bundles, Holds ((Catalog.empty config).after ops) bundles ∧
      ∀ c ∈ bundles, ∃ built, Operation.install c built ∈ ops := by
  induction ops using List.reverseRecOn with
  | nil => exact ⟨[], holds_empty config, fun _ hc => absurd hc List.not_mem_nil⟩
  | append_singleton ops op ih =>
      obtain ⟨bundles, hholds, hinstalled⟩ := ih
      obtain ⟨others, hothers, hfrom⟩ := exists_holds_step hholds op
      have hafter : (Catalog.empty config).after (ops ++ [op])
          = ((Catalog.empty config).after ops).step op := by
        rw [after, List.foldl_append]
        rfl
      refine ⟨others, hafter ▸ hothers, fun c hc => ?_⟩
      rcases hfrom c hc with hc | ⟨built, rfl⟩
      · obtain ⟨built, hmem⟩ := hinstalled c hc
        exact ⟨built, List.mem_append_left _ hmem⟩
      · exact ⟨built, List.mem_append_right _ (List.mem_singleton.2 rfl)⟩

/-! ## Consistency -/

/-- The tables of a catalog agree with the bundles that are installed in it, and among
themselves. -/
structure Consistent (k : Catalog) (bundles : List Capability) : Prop where
  records : List.Forall₂ Records k.capabilities bundles
  names : k.capabilities.keys.Nodup
  /-- the actions are those of the bundles, each under its qualified name -/
  actions : k.actions.keys = bundles.flatMap actionNames
  /-- no two of these names are the same -/
  disjoint : k.actions.keys.Nodup
  owned : ∀ entry ∈ k.capabilities, k.providers.ownedBy entry.1 = entry.2.providers
  owners : ∀ e ∈ k.providers.entries, ∀ o, e.owner = some o → k.isInstalled o = true
  ids : k.providers.ids.Nodup
  counted : k.counts.providers = k.providers.ownedCount
  /-- the name of no action stands in the way of a bundle that passes its checks and is new; only
  its providers can -/
  free : ∀ c triggers, c.validate = .ok triggers → k.isInstalled c.name = false →
    (boundActions c).keys.find? k.actions.contains = none ∧
      k.install c
        = (k.providers.registerAll c.name c.providers).map (installed k c triggers)

/-- **Consistency.**  Whatever is registered, installed and uninstalled, and whether or not it
succeeds, the tables of the catalog agree. -/
theorem after_consistent (config : SelectorConfig) (ops : List Operation) :
    ∃ bundles, Consistent ((Catalog.empty config).after ops) bundles ∧
      ∀ c ∈ bundles, ∃ built, Operation.install c built ∈ ops := by
  obtain ⟨bundles, h, hinstalled⟩ := exists_holds_after config ops
  refine ⟨bundles, ?_, hinstalled⟩
  refine ⟨h.records, h.keys_eq ▸ h.names, h.keys_actions, h.nodup_actions, ?owned, ?owners, h.ids,
    h.counts_providers, ?free⟩
  case owned =>
    intro entry hentry
    obtain ⟨c, hc, hrecords⟩ := Correspondence.exists_right h.records hentry
    rw [hrecords.name, hrecords.providers]
    exact h.owned c hc
  case owners =>
    intro e he o howner
    exact h.isInstalled_iff.2 (h.owners e he o howner)
  case free =>
    intro c triggers hvalid hnew
    have hfree := h.actions_free hvalid hnew
    refine ⟨hfree, ?_⟩
    rw [install_of_validate hvalid hnew, hfree]

end Catalog

end Planwright
