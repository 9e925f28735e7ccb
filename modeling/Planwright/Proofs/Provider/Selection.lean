import Mathlib.Logic.Relation
import Planwright.Proofs.FirstBest
import Planwright.Proofs.Provider.Lookup
import Planwright.Proofs.Provider.Pricing

set_option autoImplicit false

/-!
# Which provider is chosen

A call that names a category goes to one of the providers that serve it.  In every registry that can
come about (`Providers.Reachable`) the scores of all providers are numbers, and the provider that is
chosen has the best of them; of several with the best score it is the one registered first
(`selectBest_firstBest`).  If no provider serves the call, none is chosen.
-/

namespace Planwright

open Double
open Relation (ReflTransGen)

/-! ## Who serves a call -/

/-- A provider of the category that meets the demands. -/
structure ProviderEntry.Serves (category : String) (requirements : Requirements)
    (e : ProviderEntry) : Prop where
  category : category ∈ e.manifest.categories
  cost : ∀ max ∈ requirements.maxCost, e.manifest.cost.toFloat ≤ max
  reliability : ∀ min ∈ requirements.minReliability, min ≤ e.manifest.reliability

namespace Providers

theorem qualifies_iff {category : String} {requirements : Requirements} {e : ProviderEntry} :
    qualifies category requirements e = true ↔ e.Serves category requirements := by
  simp only [qualifies, Requirements.admits, Bool.and_eq_true, List.contains_iff_mem,
    Option.all_eq_true, decide_eq_true_eq]
  exact ⟨fun ⟨hcategory, hcost, hreliability⟩ => ⟨hcategory, hcost, hreliability⟩,
    fun ⟨hcategory, hcost, hreliability⟩ => ⟨hcategory, hcost, hreliability⟩⟩

/-! ## What can come about -/

/-- What may happen to a registry.  Costs have the bounds of their type, and so have counters. -/
inductive Step : Providers → Providers → Prop where
  | register {r r' : Providers} {id : String} {m : Manifest} (fits : m.cost.Fits)
      (done : r.register id m = .ok r') : Step r r'
  | registerAll {r r' : Providers} {owner : String} {batch : List (String × Manifest)}
      (fits : ∀ p ∈ batch, p.2.cost.Fits) (done : r.registerAll owner batch = .ok r') : Step r r'
  | remove (r : Providers) (owner : String) : Step r (r.removeOwnedBy owner)
  | ask {r : Providers} {id : String} {e : ProviderEntry} (found : r.find? id = some e)
      (now : Nat) : Step r (r.adjust id fun _ => (e.tryAdmit now).2)
  | record {r : Providers} {id : String} (ended : Nat) (success : Bool)
      (room : ∀ e ∈ r.entries, e.id = id → e.callCount + 1 < 2 ^ 64) :
      Step r (r.adjust id fun e => e.recordCall ended success)

/-- Costs that are read have the bounds, so every provider whose manifest was read may be
registered. -/
theorem Step.register_of_read {r r' : Providers} {v : Value} {id : String} {m : Manifest}
    (read : Manifest.ofValue v = .ok m) (done : r.register id m = .ok r') : Step r r' :=
  .register (Manifest.fits_of_ofValue read) done

/-- The registries that come about from an empty one, with any settings. -/
def Reachable (r : Providers) : Prop := ∃ config, ReflTransGen Step (.empty config) r

end Providers

/-! ## What every step keeps -/

theorem Manifest.isShare_of_validate {m : Manifest} {id : String} (h : m.validate id = .ok ()) :
    0.0 ≤ m.reliability ∧ m.reliability ≤ 1.0 := by
  have hfault : m.fault? id = none := by
    unfold validate at h
    split at h
    · cases h
    · assumption
  unfold fault? at hfault
  split at hfault
  · cases hfault
  split at hfault
  · cases hfault
  split at hfault
  · cases hfault
  next hshare =>
  simpa [isShare] using hshare

theorem ProviderEntry.Sound.new {id : String} {m : Manifest} (hvalid : m.validate id = .ok ())
    (hfits : m.cost.Fits) (owner : Option String) : (ProviderEntry.new id m owner).Sound where
  reliability := m.isShare_of_validate hvalid
  cost := hfits
  callCount := Nat.two_pow_pos 64

theorem ProviderEntry.Sound.tryAdmit {e : ProviderEntry} (h : e.Sound) (now : Nat) :
    (e.tryAdmit now).2.Sound := by
  unfold ProviderEntry.tryAdmit
  split
  · exact ⟨h.reliability, h.cost, h.callCount⟩
  · exact h

namespace Providers

variable {r r' : Providers}

theorem validate_of_checkAll {before : List String} {batch : List (String × Manifest)}
    (h : r.checkAll before batch = .ok ()) : ∀ p ∈ batch, p.2.validate p.1 = .ok () := by
  induction batch generalizing before with
  | nil => exact List.forall_mem_nil _
  | cons p rest ih =>
      obtain ⟨id, m⟩ := p
      unfold checkAll at h
      split at h
      · cases h
      · next hvalid =>
        split at h
        · cases h
        · exact List.forall_mem_cons.2 ⟨hvalid, ih h⟩

/-- An adjusted entry is sound if the others are. -/
theorem sound_adjust {id : String} {f : ProviderEntry → ProviderEntry}
    (hr : ∀ e ∈ r.entries, e.Sound) (hf : ∀ e ∈ r.entries, e.id = id → (f e).Sound) :
    ∀ e ∈ (r.adjust id f).entries, e.Sound := by
  intro e he
  obtain ⟨d, hd, rfl⟩ := List.mem_map.1 he
  split
  · next hid => exact hf d hd hid
  · exact hr d hd

/-- What is known of every provider is kept by whatever may happen. -/
theorem Step.sound (h : Step r r') (hr : ∀ e ∈ r.entries, e.Sound) : ∀ e ∈ r'.entries, e.Sound := by
  cases h with
  | @register _ id m fits done =>
      have hvalid : m.validate id = .ok () := by
        unfold Providers.register at done
        split at done
        · cases done
        · assumption
      obtain ⟨-, rfl⟩ := register_eq_ok done
      refine List.forall_mem_append.2 ⟨hr, List.forall_mem_singleton.2 ?_⟩
      exact .new hvalid fits none
  | @registerAll _ owner batch fits done =>
      have hchecked : r.checkAll [] batch = .ok () := by
        unfold Providers.registerAll at done
        split at done
        · cases done
        · assumption
      obtain ⟨-, -, rfl⟩ := registerAll_eq_ok done
      refine List.forall_mem_append.2 ⟨hr, fun e he => ?_⟩
      obtain ⟨p, hp, rfl⟩ := List.mem_map.1 he
      exact .new (validate_of_checkAll hchecked p hp) (fits p hp) (some owner)
  | remove owner => exact fun e he => hr e (List.mem_filter.1 he).1
  | ask found now =>
      exact sound_adjust hr fun _ _ _ => (hr _ (List.mem_of_find?_eq_some found)).tryAdmit now
  | record ended success room =>
      exact sound_adjust hr fun e he hid =>
        ⟨(hr e he).reliability, (hr e he).cost, room e he hid⟩

theorem Reachable.sound (h : Reachable r) : ∀ e ∈ r.entries, e.Sound := by
  obtain ⟨config, hrun⟩ := h
  induction hrun with
  | refl => exact List.forall_mem_nil _
  | tail _ hlast ih => exact hlast.sound ih

/-- The order of registration: providers that stay keep their order, and new ones stand last. -/
theorem Step.ids (h : Step r r') :
    ∃ kept new, r'.ids = kept ++ new ∧ kept.Sublist r.ids ∧ ∀ id ∈ new, id ∉ r.ids := by
  have hsame {r' : Providers} (hids : r'.ids = r.ids) :
      ∃ kept new, r'.ids = kept ++ new ∧ kept.Sublist r.ids ∧ ∀ id ∈ new, id ∉ r.ids :=
    ⟨r.ids, [], by rw [hids, List.append_nil], List.Sublist.refl _, List.forall_mem_nil _⟩
  cases h with
  | @register _ id m _ done =>
      obtain ⟨hfree, rfl⟩ := register_eq_ok done
      exact ⟨r.ids, [id], List.map_append, List.Sublist.refl _, List.forall_mem_singleton.2 hfree⟩
  | @registerAll _ owner batch _ done =>
      obtain ⟨-, hfree, rfl⟩ := registerAll_eq_ok done
      refine ⟨r.ids, Dict.keys batch, ?_, List.Sublist.refl _, hfree⟩
      rw [Providers.ids, List.map_append, map_id_brought]
      rfl
  | remove owner =>
      refine ⟨(r.removeOwnedBy owner).ids, [], (List.append_nil _).symm, ?_, List.forall_mem_nil _⟩
      exact List.filter_sublist.map _
  | ask found now =>
      refine hsame (ids_adjust fun _ _ => ?_)
      rw [ProviderEntry.id_tryAdmit, id_of_find? found]
  | record ended success _ => exact hsame (ids_adjust fun _ hid => hid)

/-! ## Choosing -/

section

variable (r) (now : Nat) (category : String) (requirements : Requirements)

/-- The score of a provider as it is compared. -/
def scoreOf (e : ProviderEntry) : Float := (e.score r.config now).total

theorem foldl_better_eq (es : List ProviderEntry) :
    es.foldl (better r.config now) none
      = (es.map fun e => (r.scoreOf now e, e)).foldl (prefer fun d c => c.1 < d.1) none := by
  rw [List.foldl_map]
  congr 1
  funext best e
  cases best <;> rfl

/-- The failure of a call that no provider serves. -/
def noneServes : Failure :=
  .plain .providerUnavailable
    ("no provider in category '" ++ category ++ "' meets the requirements")

variable {r now category requirements}

/-- The first of the providers with the best score is chosen. -/
theorem selectBest_of_firstBest (hr : ∀ e ∈ r.entries, e.Sound) {e : ProviderEntry}
    (h : FirstBest (fun e => rank (r.scoreOf now e))
      (r.entries.filter (qualifies category requirements)) e) :
    r.selectBest now category requirements = .ok e := by
  have hnumber : ∀ d ∈ r.entries.filter (qualifies category requirements),
      (r.scoreOf now d).isNaN = false := fun d hd =>
    (hr d (List.mem_filter.1 hd).1).isNaN_score r.config now
  have hchosen : ((r.entries.filter (qualifies category requirements)).map
        fun e => (r.scoreOf now e, e)).foldl (prefer fun d c => c.1 < d.1) none
      = some (r.scoreOf now e, e) :=
    foldl_prefer_of_firstBest h fun d hd c hc => lt_iff_rank_lt (hnumber d hd) (hnumber c hc)
  unfold selectBest
  rw [foldl_better_eq, hchosen]

theorem selectBest_of_forall_not (h : ∀ e ∈ r.entries, ¬ e.Serves category requirements) :
    r.selectBest now category requirements = .error (noneServes category) := by
  have hnone : r.entries.filter (qualifies category requirements) = [] :=
    List.filter_eq_nil_iff.2 fun e he hqualifies => h e he (qualifies_iff.1 hqualifies)
  unfold selectBest
  rw [hnone]
  rfl

end

/-- The provider that a call goes to: it serves the call, and of the providers that serve it those
registered before have smaller scores and those registered later have no greater ones. -/
def IsFirstBest (r : Providers) (now : Nat) (category : String) (requirements : Requirements)
    (e : ProviderEntry) : Prop :=
  ∃ before after, r.entries = before ++ e :: after ∧ e.Serves category requirements ∧
    (∀ d ∈ before, d.Serves category requirements → r.scoreOf now d < r.scoreOf now e) ∧
    ∀ d ∈ after, d.Serves category requirements → r.scoreOf now d ≤ r.scoreOf now e

theorem isFirstBest_iff (hr : ∀ e ∈ r.entries, e.Sound) {now : Nat} {category : String}
    {requirements : Requirements} {e : ProviderEntry} :
    r.IsFirstBest now category requirements e ↔
      FirstBest (fun e => rank (r.scoreOf now e))
        (r.entries.filter (qualifies category requirements)) e := by
  have hnumber : ∀ d ∈ r.entries, (r.scoreOf now d).isNaN = false := fun d hd =>
    (hr d hd).isNaN_score r.config now
  rw [FirstBest.filter_iff]
  refine exists₂_congr fun before after => and_congr_right fun hsplit => ?_
  have hmem : ∀ d, d ∈ before ∨ d = e ∨ d ∈ after → (r.scoreOf now d).isNaN = false := by
    intro d hd
    refine hnumber d ?_
    rw [hsplit]
    simpa using hd
  simp only [qualifies_iff]
  refine and_congr_right fun _ => and_congr (forall₂_congr fun d hd => ?_)
    (forall₂_congr fun d hd => ?_)
  · rw [lt_iff_rank_lt (hmem d (.inl hd)) (hmem e (.inr (.inl rfl)))]
  · rw [le_iff_rank_le (hmem d (.inr (.inr hd))) (hmem e (.inr (.inl rfl)))]

/-- **The first of the best.**  In every registry that can come about and at every instant, the
scores of all providers are numbers.  A provider is chosen for a category and demands exactly if it
serves them and has the best score of those that do, and of several with the best score is the one
registered first.  One is chosen if any serves them, and otherwise the choice fails. -/
theorem selectBest_firstBest (h : r.Reachable) (now : Nat) (category : String)
    (requirements : Requirements) :
    (∀ e ∈ r.entries, (r.scoreOf now e).isNaN = false) ∧
    (∀ e, r.selectBest now category requirements = .ok e ↔
      r.IsFirstBest now category requirements e) ∧
    ((∃ e ∈ r.entries, e.Serves category requirements) →
      ∃ e, r.selectBest now category requirements = .ok e) ∧
    ((∀ e ∈ r.entries, ¬ e.Serves category requirements) →
      r.selectBest now category requirements = .error (noneServes category)) := by
  have hsound := h.sound
  have hexists : (∃ e ∈ r.entries, e.Serves category requirements) →
      ∃ e, r.IsFirstBest now category requirements e := by
    rintro ⟨e, he, hserves⟩
    have hmem : e ∈ r.entries.filter (qualifies category requirements) :=
      List.mem_filter.2 ⟨he, qualifies_iff.2 hserves⟩
    obtain ⟨b, hb⟩ := FirstBest.exists_of_ne_nil (fun e => rank (r.scoreOf now e))
      (List.ne_nil_of_mem hmem)
    exact ⟨b, (isFirstBest_iff hsound).2 hb⟩
  have hchosen {e : ProviderEntry} (he : r.IsFirstBest now category requirements e) :
      r.selectBest now category requirements = .ok e :=
    selectBest_of_firstBest hsound ((isFirstBest_iff hsound).1 he)
  refine ⟨fun e he => (hsound e he).isNaN_score r.config now, fun e => ⟨fun hselect => ?_, hchosen⟩,
    fun hserves => ?_, selectBest_of_forall_not⟩
  · -- something serves the call, so there is a first of the best, and it is what is chosen
    have hserves : ∃ e ∈ r.entries, e.Serves category requirements := by
      by_contra hnone
      rw [selectBest_of_forall_not fun d hd hserves => hnone ⟨d, hd, hserves⟩] at hselect
      cases hselect
    obtain ⟨b, hb⟩ := hexists hserves
    rw [hchosen hb] at hselect
    rwa [← Except.ok.inj hselect]
  · obtain ⟨e, he⟩ := hexists hserves
    exact ⟨e, hchosen he⟩

/-- The manifest of a provider of exchange rates. -/
def quoting : Manifest := ⟨"https://a.test", [], none, none, .zero, 0.5, ["rates"], none⟩

/-- It is what is read of a text that names its address and its category only. -/
def quotingWritten : Value :=
  .object [("baseAddress", .text "https://a.test"), ("categories", .list [.text "rates"])]

/-- Three providers alike are registered, and the first of them is taken away.  Of the other two,
which have the same score, the one registered before is chosen. -/
theorem selectBest_firstBest_tie :
    let r : Providers := ⟨[.new "beta" quoting none, .new "gamma" quoting none], .standard⟩
    r.Reachable ∧ r.selectBest 0 "rates" .none = .ok (.new "beta" quoting none) := by
  intro r
  have hread : Manifest.ofValue quotingWritten = .ok quoting := rfl
  have hbrought : (Providers.empty .standard).registerAll "market" [("alpha", quoting)]
      = .ok ⟨[.new "alpha" quoting (some "market")], .standard⟩ := rfl
  have hsecond :
      Providers.register ⟨[.new "alpha" quoting (some "market")], .standard⟩ "beta" quoting
      = .ok ⟨[.new "alpha" quoting (some "market"), .new "beta" quoting none], .standard⟩ := rfl
  have hthird : Providers.register
        ⟨[.new "alpha" quoting (some "market"), .new "beta" quoting none], .standard⟩ "gamma"
        quoting
      = .ok ⟨[.new "alpha" quoting (some "market"), .new "beta" quoting none,
          .new "gamma" quoting none], .standard⟩ :=
    rfl
  have hrun : ReflTransGen Step (.empty .standard)
      (removeOwnedBy ⟨[.new "alpha" quoting (some "market"), .new "beta" quoting none,
        .new "gamma" quoting none], .standard⟩ "market") :=
    (((ReflTransGen.single
      (.registerAll (List.forall_mem_singleton.2 Cost.fits_zero) hbrought)).tail
      (.register_of_read hread hsecond)).tail (.register_of_read hread hthird)).tail (.remove _ _)
  have hreachable : r.Reachable := ⟨.standard, hrun⟩
  refine ⟨hreachable, ((selectBest_firstBest hreachable 0 "rates" .none).2.1 _).2 ?_⟩
  refine ⟨[], [.new "gamma" quoting none], rfl, ⟨by decide, nofun, nofun⟩, List.forall_mem_nil _,
    List.forall_mem_singleton.2 fun _ => ?_⟩
  decide +kernel

end Providers

end Planwright
