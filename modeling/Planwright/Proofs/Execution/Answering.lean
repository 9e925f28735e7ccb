import Planwright.Proofs.Execution.Accounting
import Planwright.Proofs.Execution.Addressing
import Planwright.Proofs.Execution.Begun

set_option autoImplicit false

/-!
# Who has answered

The trace names a provider for each step that called one and succeeded.  This should be the provider
that answered: a registered one, to which the requests of the successful try were sent.

A single call that succeeds at once is shown with the provider that was chosen for it.  A batch is
shown with the name that came out of its text, although each call renders this name once more, and a
step that a fallback has helped out is shown with the text of the fallback as it was written.  So
the provider shown is the one that answered exactly if these texts are left alone by what is done to
them on the way (`trace_names_answerer_iff`).
-/

namespace Planwright

open Fallible

/-! ## Where requests go -/

namespace World

/-- From one world to another no requests were sent but to certain providers. -/
def SendsTo (P : String → Prop) (w w' : World) : Prop :=
  ∃ new, w'.sent = w.sent ++ new ∧ ∀ q ∈ new, P q.provider

namespace SendsTo

variable {P Q : String → Prop} {u v w w' : World}

theorem of_sent_eq (h : w'.sent = w.sent) : SendsTo P w w' :=
  ⟨[], by rw [h, List.append_nil], List.forall_mem_nil _⟩

theorem trans (h : SendsTo P u v) (h' : SendsTo P v w) : SendsTo P u w := by
  obtain ⟨new, hsent, hnew⟩ := h
  obtain ⟨more, hsent', hmore⟩ := h'
  refine ⟨new ++ more, ?_, List.forall_mem_append.2 ⟨hnew, hmore⟩⟩
  rw [hsent', hsent, List.append_assoc]

theorem mono (hPQ : ∀ id, P id → Q id) (h : SendsTo P w w') : SendsTo Q w w' := by
  obtain ⟨new, hsent, hnew⟩ := h
  exact ⟨new, hsent, fun q hq => hPQ _ (hnew q hq)⟩

theorem forall_mem (h : SendsTo P w w') {new : List Request} (hsent : w'.sent = w.sent ++ new) :
    ∀ q ∈ new, P q.provider := by
  obtain ⟨more, hmore, hall⟩ := h
  obtain rfl := List.append_cancel_left (hmore.symm.trans hsent)
  exact hall

/-- What changes the world without sending anything makes no difference. -/
theorem congr_right (h : SendsTo P w v) (hsent : w'.sent = v.sent) : SendsTo P w w' :=
  h.trans (of_sent_eq hsent)

end SendsTo

variable {P : String → Prop}

theorem sendsTo_launch (network : Network) (w : World) {e : ProviderEntry} (he : P e.id)
    (spec : CallSpec) (timeout : Nat) : SendsTo P w (w.launch network e spec timeout).2 := by
  have hlaunched := w.launched network e spec timeout
  generalize w.launch network e spec timeout = result at hlaunched ⊢
  cases hlaunched with
  | fault _ => exact .of_sent_eq rfl
  | full _ => exact .of_sent_eq (sent_tryAdmit w e.id)
  | @sent request built _ _ _ =>
      refine ⟨[request], by rw [send, sent_tryAdmit], List.forall_mem_singleton.2 ?_⟩
      rw [Request.provider_of_build built]
      exact he

theorem sent_foldl_land (flights : List Flight) (w : World) :
    (flights.foldl land w).sent = w.sent := by
  induction flights generalizing w with
  | nil => rfl
  | cons f rest ih => exact ih (w.land f)

end World

open World (SendsTo)

/-! ## Whom a call is addressed to -/

theorem Providers.id_of_require {r : Providers} {id : String} {e : ProviderEntry}
    (h : r.require id = .ok e) : e.id = id := by
  unfold require at h
  split at h
  · next d hfound =>
    obtain rfl := Except.ok.inj h
    exact id_of_find? hfound
  · cases h

namespace ApiCall

variable {policy : UnresolvedPolicy} {ctx : Context} {w : World} {p : PreparedCall}

theorem entry_of_fill {entry : ProviderEntry} {c : ApiCall}
    (h : c.fill policy ctx entry = .ok p) : p.entry = entry := by
  obtain ⟨value, -, h⟩ := bind_eq_ok.1 h
  obtain ⟨params, -, h⟩ := bind_eq_ok.1 h
  dsimp only at h
  split at h <;>
    obtain ⟨body, -, h⟩ := bind_eq_ok.1 h <;>
    obtain ⟨endpoint, -, h⟩ := bind_eq_ok.1 h <;>
    exact (congrArg PreparedCall.entry (Except.ok.inj h)).symm

/-- A call that is addressed to a provider goes to the one whose name comes out of the text. -/
theorem asked_of_prepare {c : ApiCall} {text : String}
    (h : (c.withProvider text).prepare policy ctx w = .ok p) :
    ctx.render policy text = .ok p.entry.id ∧ p.entry.id ∈ w.providers.ids := by
  refine ⟨?_, registered_of_prepare h⟩
  rw [prepare_withProvider] at h
  obtain ⟨name, hname, h⟩ := bind_eq_ok.1 h
  obtain ⟨entry, hentry, h⟩ := bind_eq_ok.1 h
  rw [hname, entry_of_fill h, Providers.id_of_require hentry]

end ApiCall

namespace Surroundings

variable (s : Surroundings) (ctx : Context) {P : String → Prop}

/-! ## Calls -/

theorem sendsTo_dispatch (w : World) {e : ProviderEntry} (he : P e.id) (spec : CallSpec) :
    SendsTo P w (s.dispatch w e spec).2 := by
  have hlaunch := w.sendsTo_launch s.network he spec s.config.callTimeoutMs
  unfold dispatch
  split
  · next hresult =>
    rw [hresult] at hlaunch
    exact hlaunch
  · next hresult =>
    rw [hresult] at hlaunch
    split <;> exact hlaunch.congr_right rfl

theorem sendsTo_callOne {w : World} {c : ApiCall}
    (hc : ∀ p, c.prepare s.config.unresolved ctx w = .ok p → P p.entry.id) :
    SendsTo P w (s.callOne ctx w c).2 := by
  unfold callOne
  split
  · exact .of_sent_eq rfl
  · next p hprepare =>
    have hdispatch := s.sendsTo_dispatch w (hc p hprepare) p.spec
    split <;> next hresult =>
      rw [hresult] at hdispatch
      exact hdispatch

theorem sendsTo_launchAll (w : World) {prepared : List (Except Failure PreparedCall)}
    (hall : ∀ p, .ok p ∈ prepared → P p.entry.id) : SendsTo P w (s.launchAll w prepared).2 := by
  induction prepared generalizing w with
  | nil => exact .of_sent_eq rfl
  | cons slot rest ih =>
      have hrest : ∀ p, .ok p ∈ rest → P p.entry.id := fun p hp =>
        hall p (List.mem_cons_of_mem _ hp)
      cases slot with
      | error f => exact ih w hrest
      | ok p =>
          exact (w.sendsTo_launch s.network (hall p List.mem_cons_self) p.spec
            s.config.callTimeoutMs).trans (ih _ hrest)

theorem sendsTo_callParallel {w : World} {calls : List ApiCall}
    (hall : ∀ c ∈ calls, ∀ p, c.prepare s.config.unresolved ctx w = .ok p → P p.entry.id) :
    SendsTo P w (s.callParallel ctx w calls).2 := by
  have hprepared : ∀ p, .ok p ∈ calls.map (fun c => c.prepare s.config.unresolved ctx w) →
      P p.entry.id := fun p hp => by
    obtain ⟨c, hc, hprepare⟩ := List.mem_map.1 hp
    exact hall c hc p hprepare
  have hlaunch := s.sendsTo_launchAll w hprepared
  unfold callParallel
  dsimp only
  split <;> exact hlaunch.congr_right (World.sent_foldl_land _ _)

/-- All calls of a batch go to the provider whose name comes out when the name is rendered. -/
theorem sendsTo_batchFrom (name : String) (w : World) (calls : List ApiCall) :
    SendsTo (fun id => ctx.render s.config.unresolved name = .ok id ∧ id ∈ w.providers.ids) w
      (s.batchFrom ctx name w calls).2 := by
  induction calls generalizing w with
  | nil => exact .of_sent_eq rfl
  | cons c rest ih =>
      have hfirst : SendsTo
          (fun id => ctx.render s.config.unresolved name = .ok id ∧ id ∈ w.providers.ids) w
          (s.callOne ctx w (c.withProvider name)).2 :=
        s.sendsTo_callOne ctx fun p hprepare => ApiCall.asked_of_prepare hprepare
      -- the providers are the same for the calls behind
      have hids := (s.passes_callOne ctx w (c.withProvider name)).ids
      have hrest := ih (s.callOne ctx w (c.withProvider name)).2
      rw [hids] at hrest
      unfold batchFrom
      split
      · next hcall =>
        rw [hcall] at hfirst
        exact hfirst
      · next hcall =>
        rw [hcall] at hfirst hrest
        exact hfirst.trans hrest
      · next hcall =>
        rw [hcall] at hfirst hrest
        exact hfirst.trans hrest

theorem sendsTo_callBatch (name : String) (w : World) (calls : List ApiCall) :
    SendsTo (fun id => ctx.render s.config.unresolved name = .ok id ∧ id ∈ w.providers.ids) w
      (s.callBatch ctx w name calls).2 := by
  have hbatch := s.sendsTo_batchFrom ctx name w calls
  unfold callBatch
  split <;> next hcalls =>
    rw [hcalls] at hbatch
    exact hbatch

theorem sent_invoke (w : World) (action : String) (params : Value) :
    (s.invoke ctx w action params).2.sent = w.sent := by
  unfold invoke
  split
  · rfl
  · split
    · rfl
    · dsimp only
      split <;> rfl

end Surroundings

/-! ## Instructions -/

namespace Act

/-- The name of the provider that an instruction asks for when it is addressed by a text.  Calls
render the text; a batch renders it for the step, and what came out of it once more for each
call. -/
def destination (policy : UnresolvedPolicy) (ctx : Context) (text : String) :
    Act → Except Failure String
  | .batch _ _ => do ctx.render policy (← ctx.render policy text)
  | _ => ctx.render policy text

/-- A try goes to one provider unless it makes calls in parallel that are addressed on their own:
one with a fallback always does. -/
def AsksOne (fallback : Option String) (act : Act) : Prop :=
  fallback.isSome ∨ ∀ calls, act ≠ .parallel calls

/-- The name that the trace shows after a successful try is the one that was asked for: the name of
a batch is left alone when it is rendered again, and so is the text of a fallback. -/
def ShowsAsked (policy : UnresolvedPolicy) (ctx : Context) (act : Act) : Option String → Prop
  | none => act.NamesSettled policy ctx
  | some text => act.destination policy ctx text = .ok text

end Act

namespace Surroundings

variable (s : Surroundings) (ctx : Context)

theorem world_perform_call (w : World) (c : ApiCall) :
    (s.perform ctx w (.call c)).2 = (s.callOne ctx w c).2 := by
  rw [perform]
  split <;> next hcall => rw [hcall]

theorem world_perform_parallel (w : World) (calls : List ApiCall) :
    (s.perform ctx w (.parallel calls)).2 = (s.callParallel ctx w calls).2 := by
  rw [perform]
  split <;> next hcalls => rw [hcalls]

/-- An instruction without calls sends nothing. -/
theorem sent_perform (w : World) {act : Act} (h : act.usesProviders = false) :
    (s.perform ctx w act).2.sent = w.sent := by
  cases act with
  | call c => cases h
  | parallel calls => cases h
  | batch text calls => cases h
  | custom action params =>
      have hsent := s.sent_invoke ctx w action params
      rw [perform]
      split <;> next hresult =>
        rw [hresult] at hsent
        exact hsent
  | calculate operation params => rfl
  | format template => rfl
  | transform input function places => rfl
  | fail e => rfl

/-- An instruction that is addressed by a text sends requests to one provider only, a registered
one. -/
theorem sendsTo_perform_withProvider (w : World) (act : Act) (text : String) :
    SendsTo (fun id => act.destination s.config.unresolved ctx text = .ok id ∧
      id ∈ w.providers.ids) w (s.perform ctx w (act.withProvider text)).2 := by
  cases act with
  | call c =>
      rw [Act.withProvider, world_perform_call]
      exact s.sendsTo_callOne ctx fun p hprepare => ApiCall.asked_of_prepare hprepare
  | parallel calls =>
      rw [Act.withProvider, world_perform_parallel]
      refine s.sendsTo_callParallel ctx fun c hc p hprepare => ?_
      obtain ⟨c, -, rfl⟩ := List.mem_map.1 hc
      exact ApiCall.asked_of_prepare hprepare
  | batch other calls =>
      rw [Act.withProvider, perform, Act.destination]
      cases hname : ctx.render s.config.unresolved text with
      | error f => exact .of_sent_eq rfl
      | ok name =>
          have hcalls := s.sendsTo_callBatch ctx name w calls
          rw [bind_of_ok]
          dsimp only
          split <;> next hresult =>
            rw [hresult] at hcalls
            exact hcalls
  | custom action params => exact .of_sent_eq (s.sent_perform ctx w rfl)
  | calculate operation params => exact .of_sent_eq rfl
  | format template => exact .of_sent_eq rfl
  | transform input function places => exact .of_sent_eq rfl
  | fail e => exact .of_sent_eq rfl

/-- Carrying out an instruction only adds to the requests. -/
theorem exists_sent_perform (w : World) (act : Act) :
    ∃ new, (s.perform ctx w act).2.sent = w.sent ++ new := by
  have hsends : SendsTo (fun _ => True) w (s.perform ctx w act).2 := by
    cases act with
    | call c =>
        rw [world_perform_call]
        exact s.sendsTo_callOne ctx fun _ _ => trivial
    | parallel calls =>
        rw [world_perform_parallel]
        exact s.sendsTo_callParallel ctx fun _ _ _ _ => trivial
    | batch text calls =>
        exact (s.sendsTo_perform_withProvider ctx w (.batch text calls) text).mono
          fun _ _ => trivial
    | _ => exact .of_sent_eq (s.sent_perform ctx w rfl)
  obtain ⟨new, hsent, -⟩ := hsends
  exact ⟨new, hsent⟩

/-- A call that succeeds tells the provider that it was prepared for. -/
theorem prepared_of_callOne {w w' : World} {c : ApiCall} {v : Value} {id : String}
    (h : s.callOne ctx w c = (.ok (v, id), w')) :
    ∃ p, c.prepare s.config.unresolved ctx w = .ok p ∧ p.entry.id = id := by
  unfold callOne at h
  split at h
  · cases h
  · next p hprepare =>
    refine ⟨p, hprepare, ?_⟩
    split at h
    · cases h
    · next body _ _ =>
      have hfinish := (Prod.mk.inj h).1
      cases hbody : p.finish body with
      | error f =>
          rw [hbody] at hfinish
          cases hfinish
      | ok x =>
          rw [hbody] at hfinish
          exact (Prod.mk.inj (Except.ok.inj hfinish)).2

/-- A step with a single call that succeeds tells a registered provider, and nobody else was
asked. -/
theorem perform_call_ok {w w' : World} {c : ApiCall} {v : Value} {shown : Option String}
    (h : s.perform ctx w (.call c) = (.ok (v, shown), w')) :
    ∃ id, shown = some id ∧ id ∈ w.providers.ids ∧ SendsTo (· = id) w w' := by
  rw [perform] at h
  split at h
  · next u id after hcall =>
    obtain ⟨p, hprepare, hid⟩ := s.prepared_of_callOne ctx hcall
    have hsends : SendsTo (· = id) w (s.callOne ctx w c).2 := by
      refine s.sendsTo_callOne ctx fun q hq => ?_
      obtain rfl := Except.ok.inj (hprepare.symm.trans hq)
      exact hid
    rw [hcall] at hsends
    obtain ⟨hresult, rfl⟩ := Prod.mk.inj h
    refine ⟨id, (Prod.mk.inj (Except.ok.inj hresult)).2.symm, ?_, hsends⟩
    rw [← hid]
    exact ApiCall.registered_of_prepare hprepare
  · cases h

/-- A batch that succeeds tells the name that came out of its text. -/
theorem perform_batch_ok {w w' : World} {text : String} {calls : List ApiCall} {v : Value}
    {shown : Option String} (h : s.perform ctx w (.batch text calls) = (.ok (v, shown), w')) :
    ∃ name, ctx.render s.config.unresolved text = .ok name ∧ shown = some name := by
  rw [perform] at h
  cases hname : ctx.render s.config.unresolved text with
  | error f => simp [hname] at h
  | ok name =>
      refine ⟨name, rfl, ?_⟩
      rw [hname] at h
      dsimp only at h
      split at h
      · exact (Prod.mk.inj (Except.ok.inj (Prod.mk.inj h).1)).2.symm
      · cases h

/-! ## Tries -/

/-- A name is that of the provider that requests went to: there was one of this name, and all of
them were addressed to it. -/
def NamesAnswerer (w : World) (requests : List Request) (shown : Option String) : Prop :=
  ∃ id, shown = some id ∧ id ∈ w.providers.ids ∧ ∀ q ∈ requests, q.provider = id

/-- The try with which an instruction succeeds: the fallback in it, if it is not the first one, the
worlds before and after it, and the name that the trace shows. -/
inductive SucceedsBy (s : Surroundings) (ctx : Context) (act : Act) (fallbacks : List String)
    (w : World) : Option String → World → Option String → World → Prop where
  | atOnce {v : Value} {shown : Option String} {w' : World}
      (first : s.perform ctx w act = (.ok (v, shown), w')) :
      SucceedsBy s ctx act fallbacks w none w shown w'
  | viaFallback {f : Failure} {w₁ w₂ w₃ : World} {tried untried : List String} {provider : String}
      {p : Performed} (first : s.perform ctx w act = (.error (.failed f), w₁))
      (go : MayFallBack act f) (split : fallbacks = tried ++ provider :: untried)
      (vain : TriedInVain s ctx act w₁ tried w₂)
      (last : s.perform ctx w₂ (act.withProvider provider) = (.ok p, w₃)) :
      SucceedsBy s ctx act fallbacks w (some provider) w₂ (some provider) w₃

/-- An empty batch sends nothing. -/
theorem sent_perform_batch_nil (w : World) (text : String) :
    (s.perform ctx w (.batch text [])).2.sent = w.sent := by
  rw [perform]
  cases ctx.render s.config.unresolved text <;> rfl

/-- The name that the trace shows after a first try is that of the provider that answered exactly if
it is the one that was asked for. -/
theorem names_iff_of_perform {w w' : World} {act : Act} {v : Value} {shown : Option String}
    (h : s.perform ctx w act = (.ok (v, shown), w')) {new : List Request}
    (hsent : w'.sent = w.sent ++ new) (hne : new ≠ []) (hone : act.AsksOne none) :
    NamesAnswerer w new shown ↔ act.NamesSettled s.config.unresolved ctx := by
  obtain ⟨q, hq⟩ := List.exists_mem_of_ne_nil new hne
  have hsilent (hw : w'.sent = w.sent) : False :=
    hne (List.append_right_eq_self.1 (hsent.symm.trans hw))
  cases act with
  | call c =>
      obtain ⟨id, rfl, hregistered, hsends⟩ := s.perform_call_ok ctx h
      exact ⟨fun _ => trivial, fun _ => ⟨id, rfl, hregistered, hsends.forall_mem hsent⟩⟩
  | parallel calls =>
      rcases hone with hsome | hnot
      · cases hsome
      · exact absurd rfl (hnot calls)
  | batch text calls =>
      obtain ⟨name, hname, rfl⟩ := s.perform_batch_ok ctx h
      have hsends := s.sendsTo_perform_withProvider ctx w (.batch text calls) text
      rw [Act.withProvider, h] at hsends
      have hasked : ∀ q ∈ new, ctx.render s.config.unresolved name = .ok q.provider ∧
          q.provider ∈ w.providers.ids := by
        simpa only [Act.destination, hname, bind_of_ok] using hsends.forall_mem hsent
      constructor
      · rintro ⟨id, hid, -, hall⟩
        obtain rfl := Option.some.inj hid
        refine .inr fun other hother => ?_
        obtain rfl := Except.ok.inj (hname.symm.trans hother)
        rw [(hasked q hq).1, hall q hq]
      · rintro (rfl | hsettled)
        · have hnothing := s.sent_perform_batch_nil ctx w text
          rw [h] at hnothing
          exact (hsilent hnothing).elim
        · have hprovider (q : Request) (hq : q ∈ new) : q.provider = name :=
            Except.ok.inj ((hasked q hq).1.symm.trans (hsettled name hname))
          exact ⟨name, rfl, hprovider q hq ▸ (hasked q hq).2, hprovider⟩
  | _ =>
      have hafter := congrArg (·.2.sent) h
      exact (hsilent (hafter.symm.trans (s.sent_perform ctx w rfl))).elim

/-- The name that the trace shows after a try with a fallback is that of the provider that answered
exactly if the fallback's text is left alone by what makes a name of it. -/
theorem names_iff_of_perform_withProvider {w w' : World} {act : Act} {text : String}
    {p : Performed} (h : s.perform ctx w (act.withProvider text) = (.ok p, w'))
    {new : List Request} (hsent : w'.sent = w.sent ++ new) (hne : new ≠ []) :
    NamesAnswerer w new (some text) ↔
      act.destination s.config.unresolved ctx text = .ok text := by
  have hsends := s.sendsTo_perform_withProvider ctx w act text
  rw [h] at hsends
  have hasked := hsends.forall_mem hsent
  obtain ⟨q, hq⟩ := List.exists_mem_of_ne_nil new hne
  constructor
  · rintro ⟨id, hid, -, hall⟩
    obtain rfl := Option.some.inj hid
    rw [(hasked q hq).1, hall q hq]
  · intro hsettled
    have hprovider (q : Request) (hq : q ∈ new) : q.provider = text :=
      Except.ok.inj ((hasked q hq).1.symm.trans hsettled)
    exact ⟨text, rfl, hprovider q hq ▸ (hasked q hq).2, hprovider⟩

/-- An instruction succeeds by one of its tries. -/
theorem succeedsBy_of_attempt {s : Surroundings} {ctx : Context} {act : Act}
    {fallbacks : List String} {w w' : World} {v : Value} {shown : Option String}
    {status : StepStatus}
    (h : s.attempt fallbacks ctx w act = (.ok ((v, shown), status), w')) :
    ∃ fallback before, SucceedsBy s ctx act fallbacks w fallback before shown w' ∧
      status = if fallback.isSome then .completedViaFallback else .completed := by
  cases attempted_iff.2 h with
  | atOnce first => exact ⟨none, w, .atOnce first, rfl⟩
  | viaFallback first go split vain last =>
      exact ⟨_, _, .viaFallback first go split vain last, rfl⟩

theorem SucceedsBy.exists_sent {s : Surroundings} {ctx : Context} {act : Act}
    {fallbacks : List String} {w before after : World} {fallback shown : Option String}
    (h : SucceedsBy s ctx act fallbacks w fallback before shown after) :
    ∃ new, after.sent = before.sent ++ new := by
  cases h with
  | atOnce first =>
      have hsent := s.exists_sent_perform ctx w act
      rwa [first] at hsent
  | @viaFallback _ _ _ _ _ _ provider _ first go split vain last =>
      have hsent := s.exists_sent_perform ctx before (act.withProvider provider)
      rwa [last] at hsent

/-- The name that the trace shows is that of the provider that answered exactly if it is the one
that was asked for. -/
theorem SucceedsBy.names_iff {s : Surroundings} {ctx : Context} {act : Act}
    {fallbacks : List String} {w before after : World} {fallback shown : Option String}
    (h : SucceedsBy s ctx act fallbacks w fallback before shown after) {new : List Request}
    (hsent : after.sent = before.sent ++ new) (hne : new ≠ []) (hone : act.AsksOne fallback) :
    NamesAnswerer before new shown ↔ act.ShowsAsked s.config.unresolved ctx fallback := by
  cases h with
  | atOnce first => exact s.names_iff_of_perform ctx first hsent hne hone
  | viaFallback first go split vain last =>
      exact s.names_iff_of_perform_withProvider ctx last hsent hne

/-- **Who has answered.**  The entries in the trace of an execution are those of the steps that it
begins.  A plain step whose entry has not failed succeeded by one of its tries, the first one or one
with a fallback, as the entry says.  If this try sent requests, and all by one address, then the
entry names the provider that answered, a registered one to which all of them went, exactly if the
name that it shows is the one that was asked for. -/
theorem trace_names_answerer_iff (s : Surroundings) (w : World) (r : Recipe) :
    (∀ t, t ∈ (s.execute w r).1.steps ↔
      ∃ place n st, s.ExecutionBegins w r place n st ∧
        s.traceOf? (r.fallbackOrder.map (·.provider)) place n st = some t) ∧
    ∀ place head act st t, s.ExecutionBegins w r place (.plain head act) st →
      s.traceOf? (r.fallbackOrder.map (·.provider)) place (.plain head act) st = some t →
      t.status ≠ .failed →
      ∃ fallback before after new,
        SucceedsBy s st.context act (r.fallbackOrder.map (·.provider)) st.world fallback before
          t.provider after ∧
        t.path = place.text ∧ t.op = head.op ∧
        t.status = (if fallback.isSome then .completedViaFallback else .completed) ∧
        after.sent = before.sent ++ new ∧
        (new ≠ [] → act.AsksOne fallback →
          (NamesAnswerer before new t.provider ↔
            act.ShowsAsked s.config.unresolved st.context fallback)) := by
  refine ⟨s.mem_steps_iff w r, fun place head act st t _ hentry hdone => ?_⟩
  obtain ⟨ended, w', hattempt⟩ : ∃ ended w', s.attempt (r.fallbackOrder.map (·.provider)) st.context
      st.world act = (ended, w') := ⟨_, _, rfl⟩
  have hshows := (s.runNode_plain_shows _ place head act st hattempt).2
  rw [traceOf?] at hentry
  cases ended with
  | error stop =>
      obtain ⟨-, -, time, hentries⟩ := hshows
      rw [hentries] at hentry
      obtain rfl := Option.some.inj hentry
      exact absurd rfl hdone
  | ok tried =>
      obtain ⟨⟨v, shown⟩, status⟩ := tried
      obtain ⟨-, time, hentries⟩ := hshows
      rw [hentries] at hentry
      obtain rfl := Option.some.inj hentry
      obtain ⟨fallback, before, hsucceeds, hstatus⟩ := succeedsBy_of_attempt hattempt
      obtain ⟨new, hsent⟩ := hsucceeds.exists_sent
      exact ⟨fallback, before, w', new, hsucceeds, rfl, rfl, hstatus, hsent,
        fun hne hone => hsucceeds.names_iff hsent hne hone⟩

/-- Two providers with one endpoint each. -/
def alphaAndBeta : World :=
  ⟨0, ⟨[], [], ⟨["alpha", "beta"].map fun id =>
    .new id ⟨"https://a.test", [("p", "/p")], none, none, .zero, 0.5, [], none⟩ none, .standard⟩⟩,
    [], []⟩

/-- A network in which one of them does not work. -/
def alphaDown : Surroundings :=
  ⟨fun _ r => ⟨some 0, .ok ⟨if r.provider = "alpha" then 500 else 200, .null⟩⟩, .standard, none⟩

/-- A recipe that calls it, with a fallback that is named by a result. -/
def referredFallback : Recipe :=
  ⟨1.0,
    [⟨"formatResponse", some "x", false, [("template", .text "beta")]⟩,
      ⟨"apiCall", none, false, [("endpoint", .text "p"), ("provider", .text "alpha")]⟩],
    [⟨"${x}", 0.8⟩]⟩

/-- The fallback answers, and the trace names it by the text of the reference: there is no provider
of this name, and no request went to one. -/
theorem trace_shows_reference :
    (alphaDown.execute alphaAndBeta referredFallback).1.steps.map
        (fun t => (t.path, t.op, t.status, t.provider))
      = [("0", "formatResponse", .completed, none),
          ("1", "apiCall", .completedViaFallback, some "${x}")] ∧
      (alphaDown.execute alphaAndBeta referredFallback).2.sent.map (·.provider)
        = ["alpha", "beta"] ∧
      "${x}" ∉ alphaAndBeta.providers.ids := by
  refine ⟨by decide +kernel, by decide +kernel, by decide⟩

end Surroundings

end Planwright
