import Planwright.Proofs.Capability.Consistency
import Planwright.Proofs.Capability.Stepwise
import Planwright.Proofs.Execution.Accounting

set_option autoImplicit false

/-!
# Uninstalling undoes installing

Taking a capability away leaves the catalog as it would be had the capability never been installed,
whatever else was registered, installed and uninstalled in the meantime
(`uninstall_undoes_install`).

Two squares carry the proof.  Uninstalling what was just installed gives back the catalog before
(`uninstall_of_install`); and an operation that does not name the capability may as well be done
after it is taken away as before (`attempt_uninstall`).  Both need the invariant of consistent
catalogs: the tables hold what the bundles account for, and calls, which change only what entries
have counted, leave it (`Holds.move`).
-/

namespace Planwright

open Relation (ReflTransGen)
open Fallible

/-! ## Tables -/

namespace Dict

variable {α : Type}

theorem erase_of_notMem {d : Dict α} {key : String} (h : key ∉ d.keys) : d.erase key = d := by
  refine List.filter_eq_self.2 fun e he => bne_iff_ne.2 ?_
  rintro rfl
  exact h (List.mem_map_of_mem he)

end Dict

namespace Providers

variable {r r' : Providers}

/-- The names of the entries with their owners. -/
def labels (r : Providers) : List (String × Option String) := r.entries.map fun e => (e.id, e.owner)

theorem ids_eq_map_labels (r : Providers) : r.ids = r.labels.map Prod.fst := by
  rw [ids, labels, List.map_map]
  rfl

theorem ownedBy_eq_labels (r : Providers) (owner : String) :
    r.ownedBy owner = (r.labels.filter fun l => l.2 == some owner).map Prod.fst := by
  rw [ownedBy, labels, List.filter_map, List.map_map]
  rfl

/-- Changing what an entry has counted leaves the labels. -/
theorem labels_adjust {id : String} {f : ProviderEntry → ProviderEntry}
    (hf : ∀ e ∈ r.entries, e.id = id → (f e).id = e.id ∧ (f e).owner = e.owner) :
    (r.adjust id f).labels = r.labels := by
  rw [labels, labels, adjust, List.map_map]
  refine List.map_congr_left fun e he => ?_
  rw [Function.comp_apply]
  split
  · next hid => rw [(hf e he hid).1, (hf e he hid).2]
  · rfl

theorem register_eq_ok_iff {id : String} {m : Manifest} :
    r.register id m = .ok r' ↔
      m.validate id = .ok () ∧ id ∉ r.ids ∧ r' = r.add (.new id m none) := by
  unfold register
  cases m.validate id with
  | error f => simp
  | ok u =>
      rw [← contains_iff]
      cases r.contains id with
      | true => simp
      | false => simp [eq_comm]

theorem ids_removeOwnedBy_subset (r : Providers) (owner : String) :
    (r.removeOwnedBy owner).ids ⊆ r.ids :=
  List.map_subset _ List.filter_sublist.subset

theorem removeOwnedBy_append_of_ne {entries : List ProviderEntry} {owner : String}
    (h : ∀ e ∈ entries, e.owner ≠ some owner) :
    removeOwnedBy { r with entries := r.entries ++ entries } owner
      = { r.removeOwnedBy owner with entries := (r.removeOwnedBy owner).entries ++ entries } := by
  have hkept : entries.filter (fun e => e.owner != some owner) = entries :=
    List.filter_eq_self.2 fun e he => bne_iff_ne.2 (h e he)
  rw [removeOwnedBy, List.filter_append, hkept]
  rfl

/-- Providers that come together can be registered where fewer names are taken, too. -/
theorem checkAll_of_subset (hsub : r'.ids ⊆ r.ids) {before : List String} {batch : Dict Manifest}
    (h : r.checkAll before batch = .ok ()) : r'.checkAll before batch = .ok () := by
  induction batch generalizing before with
  | nil => rfl
  | cons p batch ih =>
      obtain ⟨id, m⟩ := p
      unfold checkAll at h ⊢
      cases hvalid : m.validate id with
      | error f =>
          rw [hvalid] at h
          cases h
      | ok u =>
          simp only [hvalid] at h ⊢
          split at h
          · cases h
          · next hfree =>
            rw [Bool.or_eq_true, not_or] at hfree
            have hfree' : ¬ (r'.contains id || before.contains id) = true := by
              rw [Bool.or_eq_true, not_or]
              exact ⟨fun htaken => hfree.1 (contains_iff.2 (hsub (contains_iff.1 htaken))), hfree.2⟩
            rw [if_neg hfree']
            exact ih h

theorem registerAll_of_subset (hsub : r'.ids ⊆ r.ids) {owner : String} {batch : Dict Manifest}
    {providers : Providers} (h : r.registerAll owner batch = .ok providers) :
    r'.registerAll owner batch = .ok { r' with entries := r'.entries ++ brought owner batch } := by
  unfold registerAll at h ⊢
  cases hchecked : r.checkAll [] batch with
  | error f =>
      rw [hchecked] at h
      cases h
  | ok u =>
      rw [checkAll_of_subset hsub hchecked]
      rfl

end Providers

/-- Whether an operation names a capability. -/
def Operation.Names (name : String) : Operation → Prop
  | .register _ _ => False
  | .install c _ => c.name = name
  | .uninstall other => other = name

namespace Catalog

variable {k k' k₁ : Catalog} {bundles : List Capability} {c : Capability} {name : String}

/-! ## Calls -/

/-- Catalogs with the same tables, but for what the entries have counted, hold the same bundles. -/
theorem Holds.of_labels (h : Holds k bundles) (hcapabilities : k'.capabilities = k.capabilities)
    (hactions : k'.actions = k.actions) (hlabels : k'.providers.labels = k.providers.labels) :
    Holds k' bundles where
  records := hcapabilities ▸ h.records
  built := h.built
  names := h.names
  actions := hactions.trans h.actions
  ids := by
    rw [Providers.ids_eq_map_labels, hlabels, ← Providers.ids_eq_map_labels]
    exact h.ids
  owned := by
    intro c hc
    rw [Providers.ownedBy_eq_labels, hlabels, ← Providers.ownedBy_eq_labels]
    exact h.owned c hc
  owners := by
    intro e he o howner
    have hlabel : (e.id, e.owner) ∈ k.providers.labels := by
      rw [← hlabels]
      exact List.mem_map_of_mem he
    obtain ⟨d, hd, hsame⟩ := List.mem_map.1 hlabel
    exact h.owners d hd o ((Prod.mk.inj hsame).2.trans howner)

/-- Calls leave the bundles. -/
theorem Holds.move {t t' : Traffic} (h : Holds t.world.catalog bundles)
    (hmove : Traffic.Move t t') : Holds t'.world.catalog bundles := by
  cases hmove with
  | refuse _ _ launched =>
      rw [World.launch_eq_error h.ids launched]
      exact h
  | send _ registered launched sent =>
      obtain ⟨entry, hfound⟩ := Providers.mem_ids_iff.1 registered
      obtain ⟨-, -, hworld⟩ := World.launch_eq_ok hfound launched sent
      rw [hworld]
      refine h.of_labels rfl rfl (Providers.labels_adjust fun e he hid => ?_)
      have hsame := Providers.find?_of_mem h.ids he
      rw [hid] at hsame
      obtain rfl := Option.some.inj (hsame.symm.trans hfound)
      exact ⟨rfl, rfl⟩
  | land w before behind flying =>
      exact h.of_labels rfl rfl (Providers.labels_adjust fun _ _ _ => ⟨rfl, rfl⟩)
  | lose w before behind flying => exact h
  | invoke action params => exact h
  | setClock now => exact h

/-- Whatever happens, the catalog holds the bundles that are installed in it. -/
theorem exists_holds_of_history {config : SelectorConfig} {clock : Nat} {t : Traffic}
    (h : ReflTransGen Traffic.Event (.opening config clock) t) :
    ∃ bundles, Holds t.world.catalog bundles := by
  induction h with
  | refl => exact ⟨[], holds_empty config⟩
  | tail _ hlast ih =>
      obtain ⟨bundles, hholds⟩ := ih
      cases hlast with
      | move hmove => exact ⟨bundles, hholds.move hmove⟩
      | operate op =>
          obtain ⟨others, hothers, -⟩ := exists_holds_step hholds op
          exact ⟨others, hothers⟩

/-! ## Taking away -/

/-- The catalog without a capability and what its record names. -/
def without (k : Catalog) (name : String) (record : InstalledCapability) : Catalog :=
  ⟨k.capabilities.erase name, k.actions.filter fun a => !record.actions.contains a.1,
    k.providers.removeOwnedBy name⟩

theorem uninstall_of_get? {record : InstalledCapability}
    (h : k.capabilities.get? name = some record) :
    k.uninstall name = .ok (k.without name record) := by
  unfold uninstall
  rw [h]
  rfl

theorem uninstall_eq_ok_iff :
    k.uninstall name = .ok k' ↔
      ∃ record, k.capabilities.get? name = some record ∧ k' = k.without name record := by
  refine ⟨uninstall_eq_ok, ?_⟩
  rintro ⟨record, hget, rfl⟩
  exact uninstall_of_get? hget

/-- It does not matter which of two capabilities is taken away first. -/
theorem without_comm (k : Catalog) (name other : String) (record record' : InstalledCapability) :
    (k.without name record).without other record'
      = (k.without other record').without name record := by
  simp only [without, Dict.erase, Providers.removeOwnedBy, List.filter_filter, Bool.and_comm]

theorem actions_filter_of_disjoint {actions : Dict Action} {names : List String}
    (h : ∀ name ∈ actions.keys, name ∉ names) :
    actions.filter (fun a => !names.contains a.1) = actions := by
  refine List.filter_eq_self.2 fun a ha => ?_
  simpa using h a.1 (List.mem_map_of_mem ha)

/-- Uninstalling what was just installed gives back the catalog. -/
theorem uninstall_of_install (h : Holds k bundles) (hinstall : k.install c = .ok k₁) :
    k₁.uninstall c.name = .ok k := by
  obtain ⟨triggers, providers, hvalid, hnew, hregister, rfl⟩ := install_eq_ok hinstall
  obtain ⟨-, -, rfl⟩ := Providers.registerAll_eq_ok hregister
  have hname : c.name ∉ k.capabilities.keys := by
    rw [← Dict.contains_iff]
    exact fun htaken => Bool.false_ne_true (hnew.symm.trans htaken)
  have hget : (k.capabilities ++ [(c.name, recordOf c triggers)] : Dict _).get? c.name
      = some (recordOf c triggers) := by
    rw [Dict.get?_append, Dict.get?_eq_none_iff.2 hname, Dict.get?_cons, if_pos rfl]
    rfl
  have hcapabilities : Dict.erase (k.capabilities ++ [(c.name, recordOf c triggers)]) c.name
      = k.capabilities := by
    have hself : Dict.erase [(c.name, recordOf c triggers)] c.name = [] := by simp [Dict.erase]
    rw [Dict.erase, List.filter_append, ← Dict.erase, ← Dict.erase, Dict.erase_of_notMem hname,
      hself, List.append_nil]
  have hactions : (k.actions ++ boundActions c).filter
      (fun a => !(recordOf c triggers).actions.contains a.1) = k.actions := by
    have hself : (boundActions c).filter
        (fun a => !(recordOf c triggers).actions.contains a.1) = [] := by
      refine List.filter_eq_nil_iff.2 fun a ha => ?_
      have hmem : a.1 ∈ (boundActions c).keys := List.mem_map_of_mem ha
      simpa [recordOf] using hmem
    rw [List.filter_append, hself, List.append_nil]
    refine actions_filter_of_disjoint fun name htaken hmem => ?_
    exact List.find?_eq_none.1 (h.actions_free hvalid hnew) name hmem (Dict.contains_iff.2 htaken)
  have hproviders : Providers.removeOwnedBy { k.providers with
      entries := k.providers.entries ++ Providers.brought c.name c.providers } c.name
      = k.providers := by
    -- whoever owns an entry is installed, and this capability was not
    have hothers : k.providers.entries.filter (fun e => e.owner != some c.name)
        = k.providers.entries := by
      refine List.filter_eq_self.2 fun e he => bne_iff_ne.2 fun howner => hname ?_
      rw [h.keys_eq]
      exact h.owners e he c.name howner
    have hself : (Providers.brought c.name c.providers).filter
        (fun e => e.owner != some c.name) = [] := by
      refine List.filter_eq_nil_iff.2 fun e he => ?_
      simp [Providers.owner_of_mem_brought he]
    rw [Providers.removeOwnedBy, List.filter_append, hothers, hself, List.append_nil]
  rw [uninstall_of_get? hget]
  unfold without installed
  rw [hcapabilities, hactions, hproviders]

/-! ## Operations that do not name the capability -/

variable {record : InstalledCapability}

theorem register_without (name : String) (record : InstalledCapability) {id : String} {m : Manifest}
    {providers : Providers} (h : k.providers.register id m = .ok providers) :
    ∃ providers', (k.without name record).providers.register id m = .ok providers' ∧
      ({ k with providers := providers } : Catalog).without name record
        = { k.without name record with providers := providers' } := by
  obtain ⟨hvalid, hfree, rfl⟩ := Providers.register_eq_ok_iff.1 h
  refine ⟨(k.without name record).providers.add (.new id m none),
    Providers.register_eq_ok_iff.2 ⟨hvalid, ?_, rfl⟩, ?_⟩
  · exact fun htaken => hfree (Providers.ids_removeOwnedBy_subset _ _ htaken)
  · have hothers : ∀ e ∈ [ProviderEntry.new id m none], e.owner ≠ some name := by
      intro e he howner
      rw [List.mem_singleton.1 he] at howner
      cases howner
    unfold without Providers.add
    dsimp only
    rw [Providers.removeOwnedBy_append_of_ne hothers]

theorem install_without (h : Holds k bundles) (hget : k.capabilities.get? name = some record)
    (hne : c.name ≠ name) (hinstall : k.install c = .ok k₁) :
    k₁.capabilities.get? name = some record ∧
      (k.without name record).install c = .ok (k₁.without name record) := by
  obtain ⟨triggers, providers, hvalid, hnew, hregister, rfl⟩ := install_eq_ok hinstall
  have hregister' := Providers.registerAll_of_subset
    (Providers.ids_removeOwnedBy_subset k.providers name) hregister
  obtain ⟨-, -, rfl⟩ := Providers.registerAll_eq_ok hregister
  obtain ⟨d, hd, hrecords⟩ := Correspondence.exists_right h.records (Dict.mem_of_get? hget)
  obtain rfl : name = d.name := hrecords.name
  obtain ⟨hdot, hbound⟩ := Capability.sound_of_validate hvalid
  have hholds := holds_uninstall h (uninstall_of_get? hget)
  have hnew' : (k.without d.name record).isInstalled c.name = false := by
    have hkept : (k.capabilities.erase d.name).get? c.name = k.capabilities.get? c.name :=
      Dict.get?_erase_of_ne hne
    exact (congrArg Option.isSome hkept).trans hnew
  refine ⟨?_, ?_⟩
  · refine (Dict.get?_append _ _ _).trans ?_
    rw [hget]
    rfl
  have hcapabilities : Dict.erase (k.capabilities ++ [(c.name, recordOf c triggers)]) d.name
      = k.capabilities.erase d.name ++ [(c.name, recordOf c triggers)] := by
    have hself : Dict.erase [(c.name, recordOf c triggers)] d.name
        = [(c.name, recordOf c triggers)] := by simp [Dict.erase, hne]
    rw [Dict.erase, List.filter_append, ← Dict.erase, ← Dict.erase, hself]
  -- an action's name begins with its capability's, so two capabilities share no action
  have hactions : (k.actions ++ boundActions c).filter (fun a => !record.actions.contains a.1)
      = k.actions.filter (fun a => !record.actions.contains a.1) ++ boundActions c := by
    rw [List.filter_append]
    refine congrArg _ (actions_filter_of_disjoint fun action haction hmem => hne ?_)
    rw [keys_boundActions hbound] at haction
    have hrecorded : record.actions = actionNames d := hrecords.actions
    rw [hrecorded] at hmem
    exact name_eq_of_mem_actionNames hdot (h.sound hd).1 haction hmem
  have hothers : ∀ e ∈ Providers.brought c.name c.providers, e.owner ≠ some d.name := by
    intro e he howner
    rw [Providers.owner_of_mem_brought he] at howner
    exact hne (Option.some.inj howner)
  have hproviders := Providers.removeOwnedBy_append_of_ne (r := k.providers) hothers
  rw [install_of_validate hvalid hnew', hholds.actions_free hvalid hnew']
  refine (congrArg (Except.map _) hregister').trans (congrArg Except.ok ?_)
  unfold without installed
  dsimp only
  rw [hcapabilities, hactions, hproviders]

theorem uninstall_without {other : String} (hget : k.capabilities.get? name = some record)
    (hne : other ≠ name) (huninstall : k.uninstall other = .ok k₁) :
    k₁.capabilities.get? name = some record ∧
      (k.without name record).uninstall other = .ok (k₁.without name record) := by
  obtain ⟨record', hget', rfl⟩ := uninstall_eq_ok_iff.1 huninstall
  have hkept : (k.capabilities.erase other).get? name = some record :=
    (Dict.get?_erase_of_ne hne.symm).trans hget
  have hkept' : (k.capabilities.erase name).get? other = some record' :=
    (Dict.get?_erase_of_ne hne).trans hget'
  exact ⟨hkept, uninstall_eq_ok_iff.2 ⟨record', hkept', without_comm k other name record' record⟩⟩

/-- An operation that does not name a capability may as well be done after it is taken away. -/
theorem attempt_uninstall (h : Holds k bundles) {op : Operation} (hother : ¬ op.Names name)
    (hattempt : k.attempt op = .ok k₁) (huninstall : k.uninstall name = .ok k') :
    ∃ k₁', k'.attempt op = .ok k₁' ∧ k₁.uninstall name = .ok k₁' := by
  obtain ⟨record, hget, rfl⟩ := uninstall_eq_ok_iff.1 huninstall
  cases op with
  | register id m =>
      obtain ⟨providers, hregister, rfl⟩ := map_eq_ok.1 hattempt
      obtain ⟨providers', hregister', hwithout⟩ := register_without name record hregister
      exact ⟨_, map_eq_ok.2 ⟨providers', hregister', rfl⟩,
        uninstall_eq_ok_iff.2 ⟨record, hget, hwithout.symm⟩⟩
  | install c built =>
      obtain ⟨hget', hinstall⟩ := install_without h hget hother hattempt
      exact ⟨_, hinstall, uninstall_of_get? hget'⟩
  | uninstall other =>
      obtain ⟨hget', huninstall'⟩ := uninstall_without hget hother hattempt
      exact ⟨_, huninstall', uninstall_of_get? hget'⟩

/-- Operations one after the other, all of which must succeed. -/
def attemptAll (k : Catalog) : List Operation → Except Failure Catalog
  | [] => .ok k
  | op :: ops => do
    let k ← k.attempt op
    k.attemptAll ops

theorem exists_holds_of_attempt (h : Holds k bundles) {op : Operation}
    (hattempt : k.attempt op = .ok k₁) : ∃ others, Holds k₁ others := by
  have hstep : k.step op = k₁ := by
    unfold step
    rw [hattempt]
    rfl
  obtain ⟨others, hothers, -⟩ := exists_holds_step h op
  exact ⟨others, hstep ▸ hothers⟩

/-- Operations that do not name a capability may as well be done after it is taken away. -/
theorem attemptAll_uninstall {ops : List Operation} (h : Holds k bundles)
    (hothers : ∀ op ∈ ops, ¬ op.Names name) (hattempt : k.attemptAll ops = .ok k₁)
    (huninstall : k.uninstall name = .ok k') :
    ∃ k₁', k'.attemptAll ops = .ok k₁' ∧ k₁.uninstall name = .ok k₁' := by
  induction ops generalizing k k' bundles with
  | nil =>
      obtain rfl := Except.ok.inj hattempt
      exact ⟨k', rfl, huninstall⟩
  | cons op ops ih =>
      obtain ⟨k₂, hfirst, hrest⟩ := bind_eq_ok.1 hattempt
      obtain ⟨bundles', hholds⟩ := exists_holds_of_attempt h hfirst
      obtain ⟨k₂', hfirst', huninstall'⟩ :=
        attempt_uninstall h (hothers op List.mem_cons_self) hfirst huninstall
      obtain ⟨k₁', hrest', hlast⟩ :=
        ih hholds (fun o ho => hothers o (List.mem_cons_of_mem op ho)) hrest huninstall'
      exact ⟨k₁', bind_eq_ok.2 ⟨k₂', hfirst', hrest'⟩, hlast⟩

/-- **Undoing.**  Whatever has happened before, if a bundle is installed, and other operations
succeed that do not name it, then uninstalling it leaves the catalog as these operations alone would
have left it, and they would have succeeded, too.

An operation that fails, carried out statement by statement, leaves the catalog as it was. -/
theorem uninstall_undoes_install {config : SelectorConfig} {clock : Nat} {t : Traffic}
    (hhistory : ReflTransGen Traffic.Event (.opening config clock) t) {c : Capability}
    (built : c.Built) {ops : List Operation} (hothers : ∀ op ∈ ops, ¬ op.Names c.name)
    {installed done : Catalog} (hinstall : t.world.catalog.install c = .ok installed)
    (hdone : installed.attemptAll ops = .ok done) :
    (∃ k, t.world.catalog.attemptAll ops = .ok k ∧ done.uninstall c.name = .ok k) ∧
    (∀ (k : Catalog) (op : Operation),
      (Editing.edit op).run k = Editing.outcome k (k.attempt op)) ∧
    (∀ (k : Catalog) (owner : String) (batch : Dict Manifest),
      (Editing.registerAll owner batch).run k = Editing.outcome k
        ((k.providers.registerAll owner batch).map fun p => { k with providers := p })) ∧
    ∀ (k k' : Catalog) (f : Failure),
      (∀ op, (Editing.edit op).run k = .error f k' → k' = k) ∧
      ∀ owner batch, (Editing.registerAll owner batch).run k = .error f k' → k' = k := by
  obtain ⟨bundles, hholds⟩ := exists_holds_of_history hhistory
  have hundone := uninstall_of_install hholds hinstall
  have hinstalled := holds_install hholds built hinstall
  refine ⟨attemptAll_uninstall hinstalled hothers hdone hundone, Editing.run_edit,
    Editing.run_registerAll, fun k k' f => ⟨fun op hfails => ?_, fun owner batch hfails => ?_⟩⟩
  · rw [Editing.run_edit] at hfails
    exact Editing.eq_of_outcome_eq_error hfails
  · rw [Editing.run_registerAll] at hfails
    exact Editing.eq_of_outcome_eq_error hfails

/-- A bundle with an action. -/
def weather : Capability :=
  ((Capability.new "weather" "1").withTrigger (.literal "rain")).withAction "lookup"
    fun _ _ => ⟨0, .ok .null⟩

/-- Another bundle. -/
def music : Capability := (Capability.new "music" "1").withTrigger (.literal "play")

/-- A bundle is uninstalled after another one was installed behind it. -/
theorem uninstall_undoes_install_weather : ∃ installed done k,
    (Catalog.empty .standard).install weather = .ok installed ∧
      installed.attemptAll [.install music (.withTrigger (.new _ _) _)] = .ok done ∧
        (Catalog.empty .standard).attemptAll [.install music (.withTrigger (.new _ _) _)] = .ok k ∧
          done.names = ["weather", "music"] ∧ k.names = ["music"] ∧
            done.uninstall "weather" = .ok k := by
  have built : weather.Built := .withAction (.withTrigger (.new _ _) _) _ _
  have hothers : ∀ op ∈ [Operation.install music (.withTrigger (.new _ _) _)],
      ¬ op.Names weather.name := by
    intro op hop
    rw [List.mem_singleton.1 hop]
    exact fun hnames : "music" = "weather" => absurd hnames (by decide)
  have hhistory : ReflTransGen Traffic.Event (.opening .standard 0) (.opening .standard 0) := .refl
  obtain ⟨⟨k, halone, hundone⟩, -⟩ := uninstall_undoes_install hhistory built hothers rfl rfl
  exact ⟨_, _, k, rfl, rfl, halone, rfl, by rw [← Except.ok.inj halone]; rfl, hundone⟩

end Catalog

end Planwright
