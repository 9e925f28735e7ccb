import Planwright.Proofs.Execution.History
import Planwright.Proofs.Provider.Lookup
import Mathlib.Logic.Relation

set_option autoImplicit false

/-!
# Traffic

What happens between executions and providers, however many executions interleave: calls are refused
or sent, land or are given up, actions are invoked, time passes, and the catalog is changed.  The
requests that were sent are kept as *passages*, each with the flight that answers it and with what
has become of it so far.

An execution on its own is a path of such moves, at whose end nothing that it has sent is in flight
(`passes_execute`).  What every move keeps is therefore kept by every execution, and by any number
of them at a time.
-/

namespace Planwright

open Fallible
open Relation (ReflTransGen)

/-- What has become of a request that was sent. -/
inductive Fate where
  | inFlight
  /-- its answer, or the lack of one, was recorded with its provider -/
  | landed
  /-- the caller gave up before -/
  | lost
  deriving DecidableEq, Repr, Inhabited

/-- The fate of a flight that lands or not. -/
def Fate.settled (lands : Bool) : Fate := if lands then .landed else .lost

theorem Fate.settled_ne (lands : Bool) : settled lands ≠ .inFlight := by
  cases lands <;> decide

/-- A request that was sent. -/
structure Passage where
  request : Request
  /-- the instant at which it took a place of the budget -/
  admittedAt : Nat
  flight : Flight
  fate : Fate

/-- A request that was sent, with what has become of it since. -/
def Passage.fated (q : Passage) (fate : Fate) : Passage := { q with fate := fate }

/-- A world with the requests sent in it to the providers that are registered. -/
structure Traffic where
  world : World
  passages : List Passage

namespace Traffic

/-- What may happen next to a call, whoever makes it.  The clock may be set to any instant: callers
that interleave read it at one time and go on at another. -/
inductive Move : Traffic → Traffic → Prop where
  | refuse (t : Traffic) {network : Network} {e : ProviderEntry} {spec : CallSpec} {timeout : Nat}
      {f : Failure} {w : World} (registered : e.id ∈ t.world.providers.ids)
      (launched : t.world.launch network e spec timeout = (.error f, w)) :
      Move t { t with world := w }
  | send (t : Traffic) {network : Network} {e : ProviderEntry} {spec : CallSpec} {timeout : Nat}
      {flight : Flight} {w : World} {request : Request} (registered : e.id ∈ t.world.providers.ids)
      (launched : t.world.launch network e spec timeout = (.ok flight, w))
      (sent : w.sent = t.world.sent ++ [request]) :
      Move t ⟨w, t.passages ++ [⟨request, t.world.now, flight, .inFlight⟩]⟩
  | land (w : World) (before : List Passage) {q : Passage} (behind : List Passage)
      (flying : q.fate = .inFlight) :
      Move ⟨w, before ++ q :: behind⟩
        ⟨w.land q.flight, before ++ q.fated .landed :: behind⟩
  | lose (w : World) (before : List Passage) {q : Passage} (behind : List Passage)
      (flying : q.fate = .inFlight) :
      Move ⟨w, before ++ q :: behind⟩ ⟨w, before ++ q.fated .lost :: behind⟩
  | invoke (t : Traffic) (action : String) (params : Value) :
      Move t { t with world := t.world.invoke action params }
  | setClock (t : Traffic) (now : Nat) : Move t { t with world := t.world.at_ now }

/-- What may happen to calls in the course of time. -/
abbrev Moves : Traffic → Traffic → Prop := ReflTransGen Move

/-- An operation on the catalog.  Requests to a provider that it takes away are not kept: there is
no entry any more that they could be recorded with. -/
def operate (t : Traffic) (op : Operation) : Traffic :=
  let w : World := { t.world with catalog := t.world.catalog.step op }
  ⟨w, t.passages.filter fun q => w.providers.contains q.flight.provider⟩

/-- What may happen next. -/
inductive Event : Traffic → Traffic → Prop where
  | move {t t' : Traffic} (h : Move t t') : Event t t'
  | operate (t : Traffic) (op : Operation) : Event t (t.operate op)

/-- What may happen in the course of time while a provider stays registered. -/
abbrev Staying (p : String) : Traffic → Traffic → Prop :=
  ReflTransGen fun t t' => Event t t' ∧ p ∈ t'.world.providers.ids

/-- Nothing is registered, and nothing was sent. -/
def opening (config : SelectorConfig) (now : Nat) : Traffic := ⟨⟨now, .empty config, [], []⟩, []⟩

end Traffic

open Traffic (Move Moves)

/-! ## Launching -/

namespace World

variable {w w' : World} {network : Network} {e : ProviderEntry} {spec : CallSpec} {timeout : Nat}

theorem sent_tryAdmit (w : World) (id : String) : (w.tryAdmit id).2.sent = w.sent := by
  unfold tryAdmit
  split <;> rfl

theorem tryAdmit_of_find? {id : String} (h : w.providers.find? id = some e) :
    w.tryAdmit id = ((e.tryAdmit w.now).1, w.adjust id fun _ => (e.tryAdmit w.now).2) := by
  rw [tryAdmit, h]

theorem ids_tryAdmit (w : World) (id : String) :
    (w.tryAdmit id).2.providers.ids = w.providers.ids := by
  cases hfound : w.providers.find? id with
  | none => rw [tryAdmit, hfound]
  | some e =>
      rw [tryAdmit_of_find? hfound]
      refine Providers.ids_adjust fun _ _ => ?_
      rw [ProviderEntry.id_tryAdmit, Providers.id_of_find? hfound]

theorem ids_land (w : World) (f : Flight) : (w.land f).providers.ids = w.providers.ids :=
  Providers.ids_adjust fun _ he => he

/-- The request of a call. -/
def requestOf (e : ProviderEntry) (spec : CallSpec) (timeout : Nat) :
    Except Request.Fault Request :=
  Request.build e.id e.manifest spec (e.manifest.timeoutMs.getD timeout)

/-- A call is refused if its request cannot be built or the budget of its provider has no room. -/
def Refuses (w : World) (e : ProviderEntry) (spec : CallSpec) (timeout : Nat) : Prop :=
  (∃ f, requestOf e spec timeout = .error f) ∨ (w.tryAdmit e.id).1 = false

/-- What may become of a call when it is made. -/
inductive Launched (w : World) (e : ProviderEntry) (spec : CallSpec) (timeout : Nat) :
    Except Failure Flight × World → Prop where
  | fault {f : Request.Fault} (built : requestOf e spec timeout = .error f) :
      Launched w e spec timeout (.error f.failure, w)
  | full (full : (w.tryAdmit e.id).1 = false) {f : Failure} :
      Launched w e spec timeout (.error f, (w.tryAdmit e.id).2)
  | sent {request : Request} (built : requestOf e spec timeout = .ok request)
      (room : (w.tryAdmit e.id).1 = true) {flight : Flight} (provider : flight.provider = e.id) :
      Launched w e spec timeout (.ok flight, (w.tryAdmit e.id).2.send request)

theorem launched (w : World) (network : Network) (e : ProviderEntry) (spec : CallSpec)
    (timeout : Nat) : Launched w e spec timeout (w.launch network e spec timeout) := by
  cases hbuilt : requestOf e spec timeout with
  | error f =>
      have hfault := Launched.fault (w := w) hbuilt
      unfold requestOf at hbuilt
      simpa only [launch, hbuilt] using hfault
  | ok request =>
      rcases hadmits : w.tryAdmit e.id with ⟨admits, w'⟩
      have hworld : (w.tryAdmit e.id).2 = w' := by rw [hadmits]
      cases admits with
      | false =>
          have hfull (f : Failure) : Launched w e spec timeout (.error f, (w.tryAdmit e.id).2) :=
            .full (by rw [hadmits])
          rw [hworld] at hfull
          unfold requestOf at hbuilt
          simpa only [launch, hbuilt, hadmits] using hfull _
      | true =>
          have hsent (flight : Flight) (hprovider : flight.provider = e.id) :
              Launched w e spec timeout (.ok flight, (w.tryAdmit e.id).2.send request) :=
            .sent hbuilt (by rw [hadmits]) hprovider
          rw [hworld] at hsent
          unfold requestOf at hbuilt
          simpa only [launch, hbuilt, hadmits] using hsent _ rfl

theorem ids_launch (w : World) (network : Network) (e : ProviderEntry) (spec : CallSpec)
    (timeout : Nat) : (w.launch network e spec timeout).2.providers.ids = w.providers.ids := by
  have hlaunched := w.launched network e spec timeout
  generalize w.launch network e spec timeout = result at hlaunched ⊢
  cases hlaunched with
  | fault _ => rfl
  | full _ => exact ids_tryAdmit w e.id
  | sent _ _ _ => exact ids_tryAdmit w e.id

/-- A call that is made is refused or adds a passage. -/
theorem moves_launch (network : Network) {w : World} {e : ProviderEntry}
    (hregistered : e.id ∈ w.providers.ids) (spec : CallSpec) (timeout : Nat) :
    (w.Refuses e spec timeout ∧ ∃ f w', w.launch network e spec timeout = (.error f, w') ∧
        ∀ before, Moves ⟨w, before⟩ ⟨w', before⟩) ∨
      (¬ w.Refuses e spec timeout ∧ ∃ request flight w',
        w.launch network e spec timeout = (.ok flight, w') ∧ flight.provider = e.id ∧
          ∀ before, Moves ⟨w, before⟩ ⟨w', before ++ [⟨request, w.now, flight, .inFlight⟩]⟩) := by
  have hlaunched := w.launched network e spec timeout
  generalize hlaunch : w.launch network e spec timeout = result at hlaunched
  cases hlaunched with
  | fault built =>
      exact .inl ⟨.inl ⟨_, built⟩, _, _, rfl, fun before =>
        .single (.refuse ⟨w, before⟩ hregistered hlaunch)⟩
  | full full =>
      exact .inl ⟨.inr full, _, _, rfl, fun before =>
        .single (.refuse ⟨w, before⟩ hregistered hlaunch)⟩
  | @sent request built room flight provider =>
      have hsent : ((w.tryAdmit e.id).2.send request).sent = w.sent ++ [request] := by
        rw [send, sent_tryAdmit]
      refine .inr ⟨?_, request, flight, _, rfl, provider, fun before =>
        .single (.send ⟨w, before⟩ hregistered hlaunch hsent)⟩
      rintro (⟨f, hfault⟩ | hfull)
      · rw [built] at hfault
        cases hfault
      · rw [room] at hfull
        cases hfull

/-! ## Passing on -/

/-- From one world to another by moves, at whose end nothing of what was sent on the way is in
flight. -/
structure Passes (w w' : World) : Prop where
  ids : w'.providers.ids = w.providers.ids
  moves : ∃ new : List Passage, (∀ q ∈ new, q.fate ≠ .inFlight) ∧
    ∀ before, Moves ⟨w, before⟩ ⟨w', before ++ new⟩

namespace Passes

theorem refl (w : World) : Passes w w where
  ids := rfl
  moves := ⟨[], List.forall_mem_nil _, fun before => by
    rw [List.append_nil]⟩

theorem trans {u v w : World} (h : Passes u v) (h' : Passes v w) : Passes u w where
  ids := h'.ids.trans h.ids
  moves := by
    obtain ⟨new, hnew, hmoves⟩ := h.moves
    obtain ⟨more, hmore, hmoves'⟩ := h'.moves
    refine ⟨new ++ more, List.forall_mem_append.2 ⟨hnew, hmore⟩, fun before => ?_⟩
    rw [← List.append_assoc]
    exact (hmoves before).trans (hmoves' (before ++ new))

/-- A move that adds no passage. -/
theorem of_move (hids : w'.providers.ids = w.providers.ids)
    (h : ∀ before, Move ⟨w, before⟩ ⟨w', before⟩) : Passes w w' where
  ids := hids
  moves := ⟨[], List.forall_mem_nil _, fun before => by
    rw [List.append_nil]
    exact .single (h before)⟩

theorem setClock (w : World) (now : Nat) : Passes w (w.at_ now) :=
  of_move rfl fun before => .setClock ⟨w, before⟩ now

theorem interrupt (s : Surroundings) (w : World) : Passes w (s.interrupt w) := setClock w _

end Passes

/-! ## Landing -/

/-- Flights land, or are given up, in the order in which they were sent. -/
theorem moves_settle (lands : Flight → Bool) {flying : List Passage}
    (hflying : ∀ q ∈ flying, q.fate = .inFlight) (w : World) (before : List Passage) :
    Moves ⟨w, before ++ flying⟩
      ⟨((flying.map (·.flight)).filter lands).foldl land w,
        before ++ flying.map fun q => q.fated (.settled (lands q.flight))⟩ := by
  induction flying generalizing w before with
  | nil => exact .refl
  | cons q flying ih =>
      have hq := hflying q List.mem_cons_self
      have hrest := ih fun p hp => hflying p (List.mem_cons_of_mem q hp)
      cases hlands : lands q.flight with
      | true =>
          have hmoves := hrest (w.land q.flight) (before ++ [q.fated .landed])
          rw [List.append_assoc, List.append_assoc] at hmoves
          rw [List.map_cons, List.map_cons, List.filter_cons_of_pos hlands, hlands]
          exact .head (.land w before flying hq) hmoves
      | false =>
          have hmoves := hrest w (before ++ [q.fated .lost])
          rw [List.append_assoc, List.append_assoc] at hmoves
          rw [List.map_cons, List.map_cons, List.filter_cons_of_neg (by simp [hlands]), hlands]
          exact .head (.lose w before flying hq) hmoves

theorem ids_foldl_land (flights : List Flight) (w : World) :
    (flights.foldl land w).providers.ids = w.providers.ids := by
  induction flights generalizing w with
  | nil => rfl
  | cons f flights ih => rw [List.foldl_cons, ih, ids_land]

/-- If all that was sent lands or is given up, then nothing is in flight. -/
theorem passes_settle (lands : Flight → Bool) {flying : List Passage}
    (hids : w'.providers.ids = w.providers.ids) (hflying : ∀ q ∈ flying, q.fate = .inFlight)
    (hmoves : ∀ before, Moves ⟨w, before⟩ ⟨w', before ++ flying⟩) :
    Passes w (((flying.map (·.flight)).filter lands).foldl land w') where
  ids := (ids_foldl_land _ _).trans hids
  moves := by
    refine ⟨flying.map fun q => q.fated (.settled (lands q.flight)), fun q hq => ?_,
      fun before => (hmoves before).trans (moves_settle lands hflying w' before)⟩
    obtain ⟨p, -, rfl⟩ := List.mem_map.1 hq
    exact Fate.settled_ne _

end World

open World (Passes)

/-! ## Executions -/

/-- A call that is prepared goes to the provider that it is addressed to. -/
theorem ApiCall.entryOf_of_prepare {policy : UnresolvedPolicy} {ctx : Context} {w : World}
    {c : ApiCall} {p : PreparedCall} (h : c.prepare policy ctx w = .ok p) :
    entryOf policy ctx w c.target = .ok p.entry := by
  obtain ⟨entry, hentry, h⟩ := bind_eq_ok.1 h
  obtain ⟨value, -, h⟩ := bind_eq_ok.1 h
  obtain ⟨params, -, h⟩ := bind_eq_ok.1 h
  have hsame : p.entry = entry := by
    dsimp only at h
    split at h <;>
      obtain ⟨body, -, h⟩ := bind_eq_ok.1 h <;>
      obtain ⟨endpoint, -, h⟩ := bind_eq_ok.1 h <;>
      exact (congrArg PreparedCall.entry (Except.ok.inj h)).symm
  rw [hsame]
  exact hentry

/-- A call that is prepared goes to a registered provider. -/
theorem ApiCall.registered_of_prepare {policy : UnresolvedPolicy} {ctx : Context} {w : World}
    {c : ApiCall} {p : PreparedCall} (h : c.prepare policy ctx w = .ok p) :
    p.entry.id ∈ w.providers.ids := by
  have hentry := entryOf_of_prepare h
  refine Providers.mem_ids_of_mem ?_
  unfold entryOf at hentry
  split at hentry
  · obtain ⟨name, -, hentry⟩ := bind_eq_ok.1 hentry
    exact Providers.mem_of_require hentry
  · obtain ⟨name, -, hentry⟩ := bind_eq_ok.1 hentry
    exact Providers.mem_of_selectBest hentry

namespace Surroundings

variable (s : Surroundings) (ctx : Context)

/-- What may become of a call that is made and awaited. -/
inductive Dispatched (s : Surroundings) (w : World) (e : ProviderEntry) (spec : CallSpec) :
    Ended Value × World → Prop where
  | refused {f : Failure} {w' : World} (refuses : w.Refuses e spec s.config.callTimeoutMs)
      (ids : w'.providers.ids = w.providers.ids)
      (moves : ∀ before, Moves ⟨w, before⟩ ⟨w', before⟩) :
      Dispatched s w e spec (.error (.failed f), w')
  | landed {q : Passage} {w' : World} (sent : ¬ w.Refuses e spec s.config.callTimeoutMs)
      (ids : w'.providers.ids = w.providers.ids) (provider : q.flight.provider = e.id)
      (fate : q.fate = .landed) (moves : ∀ before, Moves ⟨w, before⟩ ⟨w', before ++ [q]⟩) :
      Dispatched s w e spec (.of q.flight.answer, w')
  | lost {q : Passage} {w' : World} (sent : ¬ w.Refuses e spec s.config.callTimeoutMs)
      (ids : w'.providers.ids = w.providers.ids) (provider : q.flight.provider = e.id)
      (fate : q.fate = .lost) (moves : ∀ before, Moves ⟨w, before⟩ ⟨w', before ++ [q]⟩) :
      Dispatched s w e spec (.error .interrupted, w')

theorem dispatched {w : World} {e : ProviderEntry} (hregistered : e.id ∈ w.providers.ids)
    (spec : CallSpec) : Dispatched s w e spec (s.dispatch w e spec) := by
  have hids := w.ids_launch s.network e spec s.config.callTimeoutMs
  unfold dispatch
  rcases World.moves_launch s.network hregistered spec s.config.callTimeoutMs with
    ⟨hrefuses, f, w', hlaunch, hmoves⟩ |
      ⟨hsends, request, flight, w', hlaunch, hprovider, hmoves⟩ <;>
    rw [hlaunch] at hids ⊢
  · exact .refused hrefuses hids hmoves
  · dsimp only
    split
    · refine .lost (q := ⟨request, w.now, flight, .lost⟩) hsends hids hprovider rfl fun before => ?_
      exact ((hmoves before).tail (.lose w' before [] rfl)).tail (.setClock _ _)
    · refine .landed (q := ⟨request, w.now, flight, .landed⟩) hsends
        ((World.ids_land w' flight).trans hids) hprovider rfl fun before => ?_
      exact ((hmoves before).tail (.land w' before [] rfl)).tail (.setClock _ _)

theorem passes_dispatch {w : World} {e : ProviderEntry} (hregistered : e.id ∈ w.providers.ids)
    (spec : CallSpec) : Passes w (s.dispatch w e spec).2 := by
  have hdispatched := s.dispatched hregistered spec
  generalize s.dispatch w e spec = result at hdispatched ⊢
  cases hdispatched with
  | refused _ ids moves =>
      exact ⟨ids, [], List.forall_mem_nil _, by simpa using moves⟩
  | @landed q _ _ ids _ fate moves =>
      refine ⟨ids, [q], List.forall_mem_singleton.2 ?_, moves⟩
      rw [fate]
      decide
  | @lost q _ _ ids _ fate moves =>
      refine ⟨ids, [q], List.forall_mem_singleton.2 ?_, moves⟩
      rw [fate]
      decide

theorem passes_callOne (w : World) (c : ApiCall) : Passes w (s.callOne ctx w c).2 := by
  unfold callOne
  split
  · exact .refl w
  · next p hprepare =>
    have hpasses := s.passes_dispatch (ApiCall.registered_of_prepare hprepare) p.spec
    split <;> next hdispatch =>
      rw [hdispatch] at hpasses
      exact hpasses

/-! ### Several calls -/

/-- Calls in parallel are all in flight when the last of them is sent. -/
theorem moves_launchAll (w : World) (prepared : List (Except Failure PreparedCall))
    (hregistered : ∀ p, .ok p ∈ prepared → p.entry.id ∈ w.providers.ids) :
    (s.launchAll w prepared).2.providers.ids = w.providers.ids ∧
      ∃ flying : List Passage,
        flying.map (·.flight) = (s.launchAll w prepared).1.filterMap Slot.flight? ∧
          (∀ q ∈ flying, q.fate = .inFlight) ∧
            ∀ before, Moves ⟨w, before⟩ ⟨(s.launchAll w prepared).2, before ++ flying⟩ := by
  induction prepared generalizing w with
  | nil =>
      refine ⟨rfl, [], rfl, List.forall_mem_nil _, fun before => ?_⟩
      rw [List.append_nil]
      exact .refl
  | cons slot rest ih =>
      cases slot with
      | error f =>
          exact ih w fun p hp => hregistered p (List.mem_cons_of_mem _ hp)
      | ok p =>
          have hids := w.ids_launch s.network p.entry p.spec s.config.callTimeoutMs
          rcases World.moves_launch s.network (hregistered p List.mem_cons_self) p.spec
              s.config.callTimeoutMs with
            ⟨-, f, w', hlaunch, hmoves⟩ | ⟨-, request, flight, w', hlaunch, -, hmoves⟩ <;>
            rw [hlaunch] at hids <;>
            obtain ⟨hrest, flying, hflights, hflying, hmoves'⟩ := ih w' fun p hp => by
              rw [hids]
              exact hregistered p (List.mem_cons_of_mem _ hp)
          · simp only [launchAll, hlaunch]
            exact ⟨hrest.trans hids, flying, hflights, hflying,
              fun before => (hmoves before).trans (hmoves' before)⟩
          · simp only [launchAll, hlaunch]
            refine ⟨hrest.trans hids, ⟨request, w.now, flight, .inFlight⟩ :: flying, ?_,
              List.forall_mem_cons.2 ⟨rfl, hflying⟩, fun before => ?_⟩
            · rw [List.map_cons, hflights]
              rfl
            · have hlater := hmoves' (before ++ [⟨request, w.now, flight, .inFlight⟩])
              rw [List.append_assoc] at hlater
              exact (hmoves before).trans hlater

theorem passes_callParallel (w : World) (calls : List ApiCall) :
    Passes w (s.callParallel ctx w calls).2 := by
  have hregistered : ∀ p, .ok p ∈ calls.map (fun c => c.prepare s.config.unresolved ctx w) →
      p.entry.id ∈ w.providers.ids := by
    intro p hp
    obtain ⟨c, -, hprepare⟩ := List.mem_map.1 hp
    exact ApiCall.registered_of_prepare hprepare
  obtain ⟨hids, flying, hflights, hflying, hmoves⟩ := s.moves_launchAll w _ hregistered
  unfold callParallel
  dsimp only
  rw [← hflights]
  -- an interruption loses the flights that would land after it; else all of them land
  split
  · exact (World.passes_settle _ hids hflying hmoves).trans (.interrupt s _)
  · have hlanded := World.passes_settle (fun _ => true) hids hflying hmoves
    rw [List.filter_true] at hlanded
    exact hlanded.trans (.setClock _ _)

theorem passes_batchFrom (provider : String) (w : World) (calls : List ApiCall) :
    Passes w (s.batchFrom ctx provider w calls).2 := by
  induction calls generalizing w with
  | nil => exact .refl w
  | cons c rest ih =>
      have hfirst := s.passes_callOne ctx w (c.withProvider provider)
      unfold batchFrom
      split
      · next hcall =>
        rw [hcall] at hfirst
        exact hfirst
      · next hcall =>
        rw [hcall] at hfirst
        exact hfirst.trans (ih _)
      · next hcall =>
        rw [hcall] at hfirst
        exact hfirst.trans (ih _)

theorem passes_callBatch (w : World) (provider : String) (calls : List ApiCall) :
    Passes w (s.callBatch ctx w provider calls).2 := by
  have hbatch := s.passes_batchFrom ctx provider w calls
  unfold callBatch
  split <;> next hcalls =>
    rw [hcalls] at hbatch
    exact hbatch

/-! ### Instructions -/

theorem passes_invoke (w : World) (action : String) (params : Value) :
    Passes w (s.invoke ctx w action params).2 := by
  unfold invoke
  split
  · exact .refl w
  · split
    · exact .refl w
    · next params _ =>
      have hinvoked : Passes w (w.invoke action params) :=
        .of_move rfl fun before => .invoke ⟨w, before⟩ action params
      dsimp only
      split
      · exact hinvoked.trans (.interrupt s _)
      · exact hinvoked.trans (.setClock _ _)

theorem passes_perform (w : World) (act : Act) : Passes w (s.perform ctx w act).2 := by
  cases act with
  | call c =>
      have hcall := s.passes_callOne ctx w c
      unfold perform
      dsimp only
      split <;> next hone =>
        rw [hone] at hcall
        exact hcall
  | parallel calls =>
      have hcalls := s.passes_callParallel ctx w calls
      unfold perform
      dsimp only
      split <;> next hall =>
        rw [hall] at hcalls
        exact hcalls
  | batch provider calls =>
      unfold perform
      dsimp only
      split
      · exact .refl w
      · next name _ =>
        have hcalls := s.passes_callBatch ctx w name calls
        split <;> next hall =>
          rw [hall] at hcalls
          exact hcalls
  | custom action params =>
      have hinvoke := s.passes_invoke ctx w action params
      unfold perform
      dsimp only
      split <;> next hinvoked =>
        rw [hinvoked] at hinvoke
        exact hinvoke
  | calculate operation params => exact .refl w
  | format template => exact .refl w
  | transform input function places => exact .refl w
  | fail e => exact .refl w

theorem passes_tryFallbacks (act : Act) (first : Failure) (w : World) (providers : List String) :
    Passes w (s.tryFallbacks ctx act first w providers).2 := by
  induction providers generalizing w with
  | nil => exact .refl w
  | cons provider rest ih =>
      have hfirst := s.passes_perform ctx w (act.withProvider provider)
      unfold tryFallbacks
      split
      · next hperform =>
        rw [hperform] at hfirst
        exact hfirst
      · next hperform =>
        rw [hperform] at hfirst
        exact hfirst
      · next hperform =>
        rw [hperform] at hfirst
        exact hfirst.trans (ih _)

theorem passes_attempt (fallbacks : List String) (w : World) (act : Act) :
    Passes w (s.attempt fallbacks ctx w act).2 := by
  have hfirst := s.passes_perform ctx w act
  unfold attempt
  split
  · next hperform =>
    rw [hperform] at hfirst
    exact hfirst
  · next hperform =>
    rw [hperform] at hfirst
    exact hfirst
  · next hperform =>
    rw [hperform] at hfirst
    split
    · exact hfirst.trans (s.passes_tryFallbacks ctx act _ _ fallbacks)
    · exact hfirst

/-! ### Runs -/

theorem world_settle (started : Nat) (place : Place) (head : StepHead)
    (ended : Ended (Flow × Option String × StepStatus)) (st : RunState) :
    (RunState.settle started place head ended st).2.2.world = st.world := by
  unfold RunState.settle
  dsimp only
  split <;> rfl

theorem passes_runNodes (fallbacks : List String) :
    (∀ n place st, Passes st.world (s.runNode fallbacks place n st).2.2.world) ∧
    ∀ ns around index last st,
      Passes st.world (s.runNodes fallbacks around index last ns st).2.2.world := by
  refine Node.induction ?plain ?branch ?nil ?cons
  case plain =>
    intro head act place st
    unfold runNode
    dsimp only
    rw [world_settle]
    exact s.passes_attempt _ fallbacks _ act
  case branch =>
    intro head condition ifTrue ifFalse htrue hfalse place st
    cases hside : st.context.condition s.config.unresolved condition with
    | error f =>
        rw [s.runNode_branch_of_error fallbacks hside]
        unfold RunState.settleBranch
        dsimp only
        rw [world_settle]
        exact .refl _
    | ok b =>
        rw [s.runNode_branch_of_ok fallbacks hside]
        unfold RunState.settleBranch
        dsimp only
        rw [world_settle]
        cases b with
        | true => exact htrue _ _ _ _
        | false => exact hfalse _ _ _ _
  case nil =>
    intro around index last st
    exact .refl _
  case cons =>
    intro n rest hn hrest around index last st
    have hfirst := hn ⟨around, index⟩ st
    rcases next_or_stop (s.runNode fallbacks ⟨around, index⟩ n st) with
      ⟨v, entries, st', hnext⟩ | hstop
    · rw [s.runNodes_of_next fallbacks hnext]
      rw [hnext] at hfirst
      exact hfirst.trans (hrest _ _ _ _)
    · rw [s.runNodes_of_stop fallbacks hstop]
      exact hfirst

/-- An execution is a path of moves, at whose end nothing that it has sent is in flight. -/
theorem passes_execute (w : World) (r : Recipe) : Passes w (s.execute w r).2 := by
  have hrun : (s.execute w r).2 = (s.run w r).2.2.world := rfl
  rw [hrun]
  rcases s.run_cases w r with ⟨f, -, hran, -⟩ | ⟨-, hran, -⟩ | ⟨nodes, -, hran, -⟩ <;> rw [hran]
  · exact .refl w
  · exact .refl w
  · exact (s.passes_runNodes _).2 nodes _ _ _ ⟨w, .empty⟩

end Surroundings

end Planwright
