import Mathlib.Algebra.GroupWithZero.Nat
import Planwright.Execution.Run
import Planwright.Proofs.Execution.Traffic

set_option autoImplicit false

/-!
# How long a step may take

Time passes only while an answer is awaited, and an answer is awaited no longer than the timeout of
its provider.  So the time of a step that calls providers is bounded whatever the network does, even
where answers never come: a single call takes at most its timeout, calls in parallel take at most
the longest of their timeouts, and the calls of a batch at most all of them together.  Tries with
fallbacks add up (`network_step_bounded`).

The bound is told by the registry as it is when the step begins, since executions change what is
counted of a provider, but never its manifest (`manifest?_of_moves`).
-/

namespace Planwright

open Fallible
open Relation (ReflTransGen)
open Traffic (Move Moves)

/-! ## Manifests stay -/

theorem ProviderEntry.manifest_tryAdmit (e : ProviderEntry) (now : Nat) :
    (e.tryAdmit now).2.manifest = e.manifest := by
  unfold tryAdmit
  split <;> rfl

namespace Providers

variable {r : Providers} {id other : String} {f : ProviderEntry → ProviderEntry}

/-- The manifest under which a provider is registered. -/
def manifest? (r : Providers) (id : String) : Option Manifest := (r.find? id).map (·.manifest)

theorem manifest?_adjust (hid : ∀ e, e.id = id → (f e).id = id)
    (hmanifest : ∀ e, r.find? id = some e → (f e).manifest = e.manifest) :
    (r.adjust id f).manifest? other = r.manifest? other := by
  by_cases hother : other = id
  · rw [hother, manifest?, manifest?]
    cases hfound : r.find? id with
    | none => rw [find?_adjust hid, hfound]; rfl
    | some e =>
        rw [find?_adjust_self hid hfound]
        exact congrArg some (hmanifest e hfound)
  · rw [manifest?, find?_adjust_of_ne hid hother]
    rfl

end Providers

namespace World

variable {w w' : World} {network : Network} {e : ProviderEntry} {spec : CallSpec} {timeout : Nat}

theorem manifest?_tryAdmit (w : World) (id other : String) :
    (w.tryAdmit id).2.providers.manifest? other = w.providers.manifest? other := by
  cases hfound : w.providers.find? id with
  | none => rw [tryAdmit, hfound]
  | some e =>
      rw [tryAdmit_of_find? hfound]
      refine Providers.manifest?_adjust (fun _ _ => ?_) fun d hd => ?_
      · rw [ProviderEntry.id_tryAdmit, Providers.id_of_find? hfound]
      · obtain rfl : e = d := Option.some.inj (hfound.symm.trans hd)
        exact e.manifest_tryAdmit w.now

theorem manifest?_launch (w : World) (network : Network) (e : ProviderEntry) (spec : CallSpec)
    (timeout : Nat) (id : String) :
    (w.launch network e spec timeout).2.providers.manifest? id = w.providers.manifest? id := by
  have hlaunched := w.launched network e spec timeout
  generalize w.launch network e spec timeout = result at hlaunched ⊢
  cases hlaunched with
  | fault _ => rfl
  | full _ => exact manifest?_tryAdmit w e.id id
  | sent _ _ _ => exact manifest?_tryAdmit w e.id id

theorem manifest?_land (w : World) (f : Flight) (id : String) :
    (w.land f).providers.manifest? id = w.providers.manifest? id :=
  Providers.manifest?_adjust (fun _ he => he) fun _ _ => rfl

end World

namespace Traffic

variable {t t' : Traffic}

theorem manifest?_of_move (h : Move t t') (id : String) :
    t'.world.providers.manifest? id = t.world.providers.manifest? id := by
  cases h with
  | @refuse _ network e spec timeout f w _ launched =>
      have hkept := t.world.manifest?_launch network e spec timeout id
      rwa [launched] at hkept
  | @send _ network e spec timeout flight w request _ launched _ =>
      have hkept := t.world.manifest?_launch network e spec timeout id
      rwa [launched] at hkept
  | land w before behind flying => exact w.manifest?_land _ id
  | lose w before behind flying => rfl
  | invoke action params => rfl
  | setClock now => rfl

theorem manifest?_of_moves (h : Moves t t') (id : String) :
    t'.world.providers.manifest? id = t.world.providers.manifest? id := by
  induction h with
  | refl => rfl
  | tail _ hlast ih => exact (manifest?_of_move hlast id).trans ih

end Traffic

theorem World.Passes.manifest? {w w' : World} (h : World.Passes w w') (id : String) :
    w'.providers.manifest? id = w.providers.manifest? id := by
  obtain ⟨new, -, hmoves⟩ := h.moves
  exact Traffic.manifest?_of_moves (hmoves []) id

/-! ## One call -/

/-- A caller waits no longer than the timeout, whether an answer comes or not. -/
theorem Reply.waiting_le (r : Reply) (timeout : Nat) : r.waiting timeout ≤ timeout := by
  unfold waiting
  split
  · exact Nat.min_le_right _ _
  · exact Nat.le_refl _

namespace World

variable {w w' : World} {network : Network} {e : ProviderEntry} {spec : CallSpec} {timeout : Nat}

theorem now_tryAdmit (w : World) (id : String) : (w.tryAdmit id).2.now = w.now := by
  unfold tryAdmit
  split <;> rfl

/-- Sending a call takes no time. -/
theorem now_launch (w : World) (network : Network) (e : ProviderEntry) (spec : CallSpec)
    (timeout : Nat) : (w.launch network e spec timeout).2.now = w.now := by
  have hlaunched := w.launched network e spec timeout
  generalize w.launch network e spec timeout = result at hlaunched ⊢
  cases hlaunched with
  | fault _ => rfl
  | full _ => exact now_tryAdmit w e.id
  | sent _ _ _ => exact now_tryAdmit w e.id

/-- A call that is sent lands before its time has run out, or just then. -/
theorem landsAt_le_of_launch {flight : Flight}
    (h : w.launch network e spec timeout = (.ok flight, w')) :
    flight.landsAt ≤ w.now + e.manifest.timeoutMs.getD timeout := by
  have hnow := w.now_tryAdmit e.id
  unfold launch at h
  dsimp only at h
  split at h
  · cases h
  · split at h
    · cases h
    · next admitted hadmits =>
      rw [hadmits] at hnow
      cases h
      dsimp only at hnow ⊢
      rw [hnow]
      exact Nat.add_le_add_left (Reply.waiting_le _ _) _

end World

namespace Surroundings

variable (s : Surroundings) (ctx : Context)

/-- How long a call to a provider may take: what its manifest says, or else what is set for all. -/
def timeoutOf (e : ProviderEntry) : Nat := e.manifest.timeoutMs.getD s.config.callTimeoutMs

/-- How long a call may take: the timeout of the provider that it is addressed to.  One that is
addressed to none is not sent. -/
def callLimit (w : World) (c : ApiCall) : Nat :=
  match ApiCall.entryOf s.config.unresolved ctx w c.target with
  | .ok e => s.timeoutOf e
  | .error _ => 0

/-- A caller who gives up does so before what is awaited. -/
theorem now_interrupt_lt {instant : Nat} (h : s.cutsBefore instant = true) (w : World) :
    (s.interrupt w).now < instant := by
  unfold cutsBefore at h
  unfold interrupt World.at_
  cases hcut : s.cut with
  | none => simp [hcut] at h
  | some cut => simpa [hcut] using h

theorem now_dispatch_le (w : World) (e : ProviderEntry) (spec : CallSpec) :
    (s.dispatch w e spec).2.now ≤ w.now + s.timeoutOf e := by
  have hnow := w.now_launch s.network e spec s.config.callTimeoutMs
  unfold dispatch
  split
  · next hlaunch =>
    rw [hlaunch] at hnow
    exact Nat.le_trans (Nat.le_of_eq hnow) (Nat.le_add_right _ _)
  · next flight w' hlaunch =>
    have hlands : flight.landsAt ≤ w.now + s.timeoutOf e := World.landsAt_le_of_launch hlaunch
    split
    · next hcut => exact Nat.le_trans (Nat.le_of_lt (s.now_interrupt_lt hcut w')) hlands
    · exact hlands

theorem callLimit_of_prepare {w : World} {c : ApiCall} {p : PreparedCall}
    (h : c.prepare s.config.unresolved ctx w = .ok p) :
    s.callLimit ctx w c = s.timeoutOf p.entry := by
  rw [callLimit, ApiCall.entryOf_of_prepare h]

/-- **One call** takes no longer than the timeout of its provider. -/
theorem now_callOne_le (w : World) (c : ApiCall) :
    (s.callOne ctx w c).2.now ≤ w.now + s.callLimit ctx w c := by
  unfold callOne
  split
  · exact Nat.le_add_right _ _
  · next p hprepare =>
    have hdispatch := s.now_dispatch_le w p.entry p.spec
    rw [s.callLimit_of_prepare ctx hprepare]
    split <;> next hended =>
      rw [hended] at hdispatch
      exact hdispatch

/-! ## Calls in parallel -/

theorem now_launchAll (w : World) (prepared : List (Except Failure PreparedCall)) :
    (s.launchAll w prepared).2.now = w.now := by
  induction prepared generalizing w with
  | nil => rfl
  | cons slot rest ih =>
      cases slot with
      | error f => exact ih w
      | ok p =>
          rw [launchAll]
          exact (ih _).trans (w.now_launch s.network p.entry p.spec s.config.callTimeoutMs)

/-- Calls that are sent at the same instant have all landed when the longest of their timeouts has
run out. -/
theorem landsAt_le_of_launchAll {w : World} {prepared : List (Except Failure PreparedCall)}
    {limit : Nat} (h : ∀ p, .ok p ∈ prepared → s.timeoutOf p.entry ≤ limit) :
    ∀ f ∈ (s.launchAll w prepared).1.filterMap Slot.flight?, f.landsAt ≤ w.now + limit := by
  induction prepared generalizing w with
  | nil => exact fun _ hf => nomatch hf
  | cons slot rest ih =>
      have hrest : ∀ p, .ok p ∈ rest → s.timeoutOf p.entry ≤ limit :=
        fun p hp => h p (List.mem_cons_of_mem _ hp)
      cases slot with
      | error f => exact ih hrest
      | ok p =>
          rcases hlaunch : w.launch s.network p.entry p.spec s.config.callTimeoutMs with ⟨sent, w'⟩
          have hnow := w.now_launch s.network p.entry p.spec s.config.callTimeoutMs
          have hlater := ih (w := w') hrest
          rw [hlaunch] at hnow
          rw [show w'.now = w.now from hnow] at hlater
          simp only [launchAll, hlaunch]
          cases sent with
          | error f => exact hlater
          | ok flight =>
              refine List.forall_mem_cons.2 ⟨?_, hlater⟩
              exact Nat.le_trans (World.landsAt_le_of_launch hlaunch)
                (Nat.add_le_add_left (h p List.mem_cons_self) _)

theorem lastLanding_le {now latest : Nat} {flights : List Flight} (hnow : now ≤ latest)
    (h : ∀ f ∈ flights, f.landsAt ≤ latest) : lastLanding now flights ≤ latest := by
  unfold lastLanding
  induction flights generalizing now with
  | nil => exact hnow
  | cons f flights ih =>
      obtain ⟨hf, hrest⟩ := List.forall_mem_cons.1 h
      exact ih (Nat.max_le.2 ⟨hnow, hf⟩) hrest

/-- **Calls in parallel** take no longer than the longest of their timeouts. -/
theorem now_callParallel_le (w : World) (calls : List ApiCall) :
    (s.callParallel ctx w calls).2.now
      ≤ w.now + (calls.map (s.callLimit ctx w)).max?.getD 0 := by
  have hlimits : ∀ p, .ok p ∈ calls.map (fun c => c.prepare s.config.unresolved ctx w) →
      s.timeoutOf p.entry ≤ (calls.map (s.callLimit ctx w)).max?.getD 0 := by
    intro p hp
    obtain ⟨c, hc, hprepare⟩ := List.mem_map.1 hp
    rw [← s.callLimit_of_prepare ctx hprepare]
    exact List.le_max?_getD_of_mem (List.mem_map_of_mem hc)
  have hnow := s.now_launchAll w (calls.map fun c => c.prepare s.config.unresolved ctx w)
  have hfinish := lastLanding_le (Nat.le_trans (Nat.le_of_eq hnow) (Nat.le_add_right _ _))
    (s.landsAt_le_of_launchAll (w := w) hlimits)
  unfold callParallel
  dsimp only
  split
  · next hcut => exact Nat.le_trans (Nat.le_of_lt (s.now_interrupt_lt hcut _)) hfinish
  · exact hfinish

/-! ## Calls in a batch -/

theorem callLimit_withProvider_of_ok {w : World} {provider id : String}
    (hid : ctx.render s.config.unresolved provider = .ok id) (c : ApiCall) :
    s.callLimit ctx w (c.withProvider provider)
      = ((w.providers.manifest? id).map (·.timeoutMs.getD s.config.callTimeoutMs)).getD 0 := by
  simp only [callLimit, ApiCall.withProvider, ApiCall.entryOf, hid, bind, Except.bind,
    Providers.require, Providers.manifest?]
  cases w.providers.find? id <;> rfl

/-- Where the same manifests are registered, a call to a provider of some name may take as long. -/
theorem callLimit_withProvider_congr {w w' : World}
    (h : ∀ id, w'.providers.manifest? id = w.providers.manifest? id) (c : ApiCall)
    (provider : String) :
    s.callLimit ctx w' (c.withProvider provider) = s.callLimit ctx w (c.withProvider provider) := by
  cases hid : ctx.render s.config.unresolved provider with
  | error f => simp only [callLimit, ApiCall.withProvider, ApiCall.entryOf, hid, bind, Except.bind]
  | ok id =>
      rw [s.callLimit_withProvider_of_ok ctx hid, s.callLimit_withProvider_of_ok ctx hid, h]

/-- **The calls of a batch** take no longer than all their timeouts together. -/
theorem now_batchFrom_le (provider : String) (w : World) (calls : List ApiCall) :
    (s.batchFrom ctx provider w calls).2.now
      ≤ w.now + (calls.map fun c => s.callLimit ctx w (c.withProvider provider)).sum := by
  induction calls generalizing w with
  | nil => exact Nat.le_refl _
  | cons c rest ih =>
      have hfirst := s.now_callOne_le ctx w (c.withProvider provider)
      have hpasses := s.passes_callOne ctx w (c.withProvider provider)
      rw [List.map_cons, List.sum_cons]
      unfold batchFrom
      rcases hone : s.callOne ctx w (c.withProvider provider) with ⟨ended, w'⟩
      rw [hone] at hfirst hpasses
      have hrest := ih w'
      simp only [s.callLimit_withProvider_congr ctx hpasses.manifest?] at hrest
      dsimp only at hfirst
      rcases ended with (f | _) | ⟨v, _⟩
      · dsimp only
        omega
      · exact Nat.le_trans hfirst (Nat.add_le_add_left (Nat.le_add_right _ _) _)
      · dsimp only
        omega

theorem now_callBatch_le (provider : String) (w : World) (calls : List ApiCall) :
    (s.callBatch ctx w provider calls).2.now
      ≤ w.now + (calls.map fun c => s.callLimit ctx w (c.withProvider provider)).sum := by
  have hcalls := s.now_batchFrom_le ctx provider w calls
  unfold callBatch
  split <;> next hall =>
    rw [hall] at hcalls
    exact hcalls

/-! ## Instructions -/

/-- How long an instruction that calls providers may take at one try. -/
def limit (w : World) : Act → Nat
  | .call c => s.callLimit ctx w c
  | .parallel calls => (calls.map (s.callLimit ctx w)).max?.getD 0
  | .batch provider calls =>
    match ctx.render s.config.unresolved provider with
    | .ok name => (calls.map fun c => s.callLimit ctx w (c.withProvider name)).sum
    | .error _ => 0
  | _ => 0

theorem now_perform_le {act : Act} (h : act.usesProviders = true) (w : World) :
    (s.perform ctx w act).2.now ≤ w.now + s.limit ctx w act := by
  cases act with
  | call c =>
      have hcall := s.now_callOne_le ctx w c
      unfold perform limit
      dsimp only
      split <;> next hone =>
        rw [hone] at hcall
        exact hcall
  | parallel calls =>
      have hcalls := s.now_callParallel_le ctx w calls
      unfold perform limit
      dsimp only
      split <;> next hall =>
        rw [hall] at hcalls
        exact hcalls
  | batch provider calls =>
      unfold perform limit
      dsimp only
      cases ctx.render s.config.unresolved provider with
      | error f => exact Nat.le_refl _
      | ok name =>
          have hcalls := s.now_callBatch_le ctx name w calls
          dsimp only
          split <;> next hall =>
            rw [hall] at hcalls
            exact hcalls
  | _ => cases h

/-- Where the same manifests are registered, a try with a fallback may take as long. -/
theorem limit_withProvider_congr {w w' : World}
    (h : ∀ id, w'.providers.manifest? id = w.providers.manifest? id) (act : Act) (id : String) :
    s.limit ctx w' (act.withProvider id) = s.limit ctx w (act.withProvider id) := by
  have hcall (c : ApiCall) (name : String) :
      s.callLimit ctx w' (c.withProvider name) = s.callLimit ctx w (c.withProvider name) :=
    s.callLimit_withProvider_congr ctx h c name
  cases act with
  | call c => exact hcall c id
  | parallel calls =>
      simp only [Act.withProvider, limit, List.map_map, Function.comp_def, hcall]
  | batch provider calls => simp only [Act.withProvider, limit, hcall]
  | _ => rfl

/-! ## Steps -/

/-- The fallbacks that are tried, the first of them in a world: all up to the first with which the
instruction does not fail. -/
def triedFrom (act : Act) : World → List String → List String
  | _, [] => []
  | w, provider :: rest =>
    match s.perform ctx w (act.withProvider provider) with
    | (.error (.failed _), w) => provider :: triedFrom act w rest
    | _ => [provider]

/-- The fallbacks that are tried with an instruction: none, unless it fails in a way that may be
mended. -/
def fallbacksTried (fallbacks : List String) (w : World) (act : Act) : List String :=
  match s.perform ctx w act with
  | (.error (.failed f), w) =>
    if act.usesProviders && f.allowsFallback then s.triedFrom ctx act w fallbacks else []
  | _ => []

/-- How long an instruction may take with all its tries: the first, and one with each fallback that
is tried. -/
def allowance (fallbacks : List String) (w : World) (act : Act) : Nat :=
  s.limit ctx w act
    + ((s.fallbacksTried ctx fallbacks w act).map fun id => s.limit ctx w (act.withProvider id)).sum

theorem now_tryFallbacks_le {act : Act} (hact : act.usesProviders = true) (first : Failure)
    {w₀ w : World} (h : ∀ id, w.providers.manifest? id = w₀.providers.manifest? id)
    (fallbacks : List String) :
    (s.tryFallbacks ctx act first w fallbacks).2.now
      ≤ w.now + ((s.triedFrom ctx act w fallbacks).map fun id =>
          s.limit ctx w₀ (act.withProvider id)).sum := by
  induction fallbacks generalizing w with
  | nil => exact Nat.le_refl _
  | cons provider rest ih =>
      have huses : (act.withProvider provider).usesProviders = true := by
        cases act <;> first | rfl | cases hact
      have htry := s.now_perform_le ctx huses w
      have hpasses := s.passes_perform ctx w (act.withProvider provider)
      rw [s.limit_withProvider_congr ctx h] at htry
      unfold tryFallbacks triedFrom
      rcases hone : s.perform ctx w (act.withProvider provider) with ⟨ended, w'⟩
      rw [hone] at htry hpasses
      rcases ended with (f | _) | ⟨v, _⟩
      · have hrest := ih fun id => (hpasses.manifest? id).trans (h id)
        rw [List.map_cons, List.sum_cons]
        dsimp only at htry hrest ⊢
        omega
      · simpa using htry
      · simpa using htry

theorem now_attempt_le {act : Act} (hact : act.usesProviders = true) (fallbacks : List String)
    (w : World) :
    (s.attempt fallbacks ctx w act).2.now ≤ w.now + s.allowance ctx fallbacks w act := by
  have htry := s.now_perform_le ctx hact w
  have hpasses := s.passes_perform ctx w act
  unfold attempt allowance fallbacksTried
  rcases hone : s.perform ctx w act with ⟨ended, w'⟩
  rw [hone] at htry hpasses
  match ended with
  | .ok p => simpa using htry
  | .error .interrupted => simpa using htry
  | .error (.failed f) =>
      have hrest := s.now_tryFallbacks_le ctx hact f hpasses.manifest? fallbacks
      dsimp only at htry hrest ⊢
      split
      · omega
      · simpa using htry

end Surroundings

/-- The trace of a step tells no more time than it took. -/
theorem RunState.duration_settle_le (started : Nat) (place : Place) (head : StepHead)
    (ended : Ended (Flow × Option String × StepStatus)) (st : RunState) :
    (settle started place head ended st).2.1.duration.millis ≤ st.world.now - started := by
  match ended with
  | .ok (flow, provider, status) => exact Nat.min_le_left _ _
  | .error (.failed f) => exact Nat.min_le_left _ _
  | .error .interrupted => exact Nat.zero_le _

namespace Surroundings

/-- **How long a step may take.**  Whatever is registered and whenever answers come, if they come at
all, the time spent in a step that calls providers is at most what its first try and the tries with
the fallbacks that are tried may take together, and so is the time that its trace tells: for a call
the timeout of the provider that it is addressed to, for calls in parallel the longest of their
timeouts, for a batch all their timeouts together. -/
theorem network_step_bounded (s : Surroundings) (fallbacks : List String) (place : Place)
    (head : StepHead) {act : Act} (h : act.usesProviders = true) (st : RunState) :
    (s.runNode fallbacks place (.plain head act) st).2.2.world.now
        ≤ st.world.now + s.allowance st.context fallbacks st.world act ∧
      ∀ entry ∈ (s.runNode fallbacks place (.plain head act) st).2.1,
        entry.duration.millis ≤ s.allowance st.context fallbacks st.world act := by
  have hattempt := s.now_attempt_le st.context h fallbacks st.world
  rw [runNode]
  rcases hended : s.attempt fallbacks st.context st.world act with ⟨ended, w⟩
  rw [hended] at hattempt
  dsimp only at hattempt ⊢
  constructor
  · rwa [world_settle]
  · rintro entry hentry
    obtain rfl := List.mem_singleton.1 hentry
    refine Nat.le_trans (RunState.duration_settle_le _ _ _ _ _) ?_
    dsimp only
    omega

/-- A provider that is given 100 ms for a call, and one that does not say. -/
def hastyAndPatient : World :=
  ⟨0, ⟨[], [], ⟨[("alpha", some 100), ("beta", none)].map fun (id, timeoutMs) =>
    .new id ⟨"https://a.test", [("p", "/p")], none, none, .zero, 0.5, [], timeoutMs⟩ none,
    .standard⟩⟩, [], []⟩

/-- A network in which no answer ever comes. -/
def unanswering : Surroundings := ⟨fun _ _ => ⟨none, .ok ⟨200, .null⟩⟩, .standard, none⟩

/-- A batch of two calls waits out all that it is allowed, with its provider and with its
fallback. -/
theorem network_step_bounded_unanswering :
    let st : RunState := ⟨hastyAndPatient, .empty⟩
    let c : ApiCall := ⟨.provider "alpha", "p", .null, .get, none, none⟩
    let act : Act := .batch "alpha" [c, c]
    let head : StepHead := ⟨"batchApiCalls", none, false⟩
    act.usesProviders = true ∧ unanswering.allowance .empty ["beta"] hastyAndPatient act = 20200 ∧
      (unanswering.runNode ["beta"] ⟨[], 0⟩ (.plain head act) st).2.2.world.now = 20200 ∧
      (unanswering.runNode ["beta"] ⟨[], 0⟩ (.plain head act) st).2.2.world.now ≤ 0 + 20200 := by
  intro st c act head
  have hallowance : unanswering.allowance .empty ["beta"] hastyAndPatient act = 20200 := by
    decide +kernel
  refine ⟨rfl, hallowance, by decide +kernel, ?_⟩
  rw [← hallowance]
  have huses : act.usesProviders = true := rfl
  exact (network_step_bounded unanswering ["beta"] ⟨[], 0⟩ head huses st).1

end Surroundings

end Planwright
