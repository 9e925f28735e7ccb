import Planwright.Execution.Perform
import Planwright.Proofs.Fallible

set_option autoImplicit false

/-!
# Under which name a provider is asked for

A step names its provider by a text that may hold references.  The text should be rendered once, and
what comes out of it looked up as it is, so that nothing a value brings in is read as a reference.

`performOnce` carries out an instruction in just this way.  Single calls and calls in parallel are
carried out so (`perform_eq_performOnce_iff`).  A batch renders its text once for the step and once
more for each call, so it is carried out so exactly if rendering leaves the name alone that came out
of the text.
-/

namespace Planwright

open Fallible

namespace Template

/-- A reference that leads nowhere is the only thing that keeps a template from being rendered. -/
theorem onlyFails_render (lookup : String → Option Value) (policy : UnresolvedPolicy)
    (t : Template) :
    OnlyFails (fun f => ∃ detail, f = .invalid detail) (render lookup policy t) := by
  induction t with
  | nil => exact .ok []
  | cons part rest ih =>
      cases part with
      | literal t => exact ih.bind fun _ => .ok _
      | reference r =>
          refine OnlyFails.bind ?_ fun _ => ih.bind fun _ => .ok _
          unfold Reference.render
          split
          · exact .ok _
          · split
            · exact .ok _
            · exact .error ⟨_, rfl⟩

end Template

namespace ApiCall

/-- Resolves what a call says besides its provider, which is chosen already. -/
def fill (policy : UnresolvedPolicy) (ctx : Context) (entry : ProviderEntry) (c : ApiCall) :
    Except Failure PreparedCall := do
  let params ← membersOf (← ctx.resolveValue policy c.params)
  let body ← match c.body with
    | none => pure none
    | some b => (ctx.resolveValue policy b).map some
  let endpoint ← ctx.render policy c.endpoint
  return ⟨entry, ⟨endpoint, params, c.method, body⟩, c.transform⟩

/-- Prepares a call to the provider of a name that is looked up as it is. -/
def prepareNamed (policy : UnresolvedPolicy) (ctx : Context) (w : World) (name : String)
    (c : ApiCall) : Except Failure PreparedCall := do
  let entry ← w.providers.require name
  c.fill policy ctx entry

/-- Prepares a call; the text that names its provider is rendered once. -/
def prepareOnce (policy : UnresolvedPolicy) (ctx : Context) (w : World) (c : ApiCall) :
    Except Failure PreparedCall :=
  match c.target with
  | .provider text => do
    let name ← ctx.render policy text
    c.prepareNamed policy ctx w name
  | .category name requirements => do
    let entry ← w.providers.selectBest w.now (← ctx.render policy name) requirements
    c.fill policy ctx entry

variable (policy : UnresolvedPolicy) (ctx : Context) (w : World)

theorem prepare_eq_prepareOnce (c : ApiCall) :
    c.prepare policy ctx w = c.prepareOnce policy ctx w := by
  have hfill : c.prepare policy ctx w
      = entryOf policy ctx w c.target >>= fun entry => c.fill policy ctx entry := rfl
  rw [hfill]
  unfold prepareOnce entryOf
  cases c.target with
  | provider text => exact bind_assoc _ _ _
  | category name requirements => exact bind_assoc _ _ _

theorem prepare_withProvider (c : ApiCall) (text : String) :
    (c.withProvider text).prepare policy ctx w
      = ctx.render policy text >>= fun name => c.prepareNamed policy ctx w name :=
  prepare_eq_prepareOnce policy ctx w (c.withProvider text)

end ApiCall

namespace Surroundings

/-! ## Each text rendered once -/

/-- Sends a prepared call and awaits its answer. -/
def deliver (s : Surroundings) (w : World) : Except Failure PreparedCall →
    Ended (Value × String) × World
  | .error f => (.error (.failed f), w)
  | .ok p =>
    match s.dispatch w p.entry p.spec with
    | (.error stop, w) => (.error stop, w)
    | (.ok body, w) => (.of ((p.finish body).map fun v => (v, p.entry.id)), w)

/-- Sends prepared calls at the same instant and awaits all their answers. -/
def deliverAll (s : Surroundings) (w : World) (prepared : List (Except Failure PreparedCall)) :
    Ended Value × World :=
  let (slots, w) := s.launchAll w prepared
  let flights := slots.filterMap Slot.flight?
  let finish := lastLanding w.now flights
  if s.cutsBefore finish then
    (.error .interrupted,
      s.interrupt ((flights.filter fun f => !s.cutsBefore f.landsAt).foldl World.land w))
  else (.of (parallelResult (slots.map Slot.result)), (flights.foldl World.land w).at_ finish)

/-- Makes calls one after the other; each is prepared in the world that the one before has left. -/
def deliverInTurn (s : Surroundings) (prepare : World → ApiCall → Except Failure PreparedCall) :
    World → List ApiCall → Ended (List (Except Failure Value)) × World
  | w, [] => (.ok [], w)
  | w, c :: rest =>
    match s.deliver w (prepare w c) with
    | (.error .interrupted, w) => (.error .interrupted, w)
    | (.error (.failed f), w) =>
      let (slots, w) := s.deliverInTurn prepare w rest
      (slots.map (.error f :: ·), w)
    | (.ok (v, _), w) =>
      let (slots, w) := s.deliverInTurn prepare w rest
      (slots.map (.ok v :: ·), w)

/-- The result of a single call, and the provider that gave it. -/
def concludeCall : Ended (Value × String) × World → Ended Performed × World
  | (.ok (v, provider), w) => (.ok (v, some provider), w)
  | (.error stop, w) => (.error stop, w)

/-- The result of calls in parallel, which no one provider gives. -/
def concludeParallel : Ended Value × World → Ended Performed × World
  | (.ok v, w) => (.ok (v, none), w)
  | (.error stop, w) => (.error stop, w)

/-- The result of a batch, and the name of the provider that it went to. -/
def concludeBatch (name : String) :
    Ended (List (Except Failure Value)) × World → Ended Performed × World
  | (.error stop, w) => (.error stop, w)
  | (.ok slots, w) => (.of ((batchResult slots).map fun v => (v, some name)), w)

/-- Carries out an instruction so that each text that names a provider is rendered once, and what
comes out of it is looked up as it is. -/
def performOnce (s : Surroundings) (ctx : Context) (w : World) (act : Act) :
    Ended Performed × World :=
  match act with
  | .call c => concludeCall (s.deliver w (c.prepareOnce s.config.unresolved ctx w))
  | .parallel calls =>
    concludeParallel (s.deliverAll w (calls.map (·.prepareOnce s.config.unresolved ctx w)))
  | .batch text calls =>
    match ctx.render s.config.unresolved text with
    | .error f => (.error (.failed f), w)
    | .ok name =>
      concludeBatch name
        (s.deliverInTurn (fun w c => c.prepareNamed s.config.unresolved ctx w name) w calls)
  | act => s.perform ctx w act

end Surroundings

namespace Act

/-- Rendering leaves the name alone that comes out of the text of a batch. -/
def NamesSettled (policy : UnresolvedPolicy) (ctx : Context) : Act → Prop
  | .batch text calls =>
    calls = [] ∨ ∀ name, ctx.render policy text = .ok name → ctx.render policy name = .ok name
  | _ => True

end Act

/-! ## Where nothing is registered

A registry without providers answers every name with a failure that shows the name, so there it can
be told under which name a provider was asked for. -/

namespace ApiCall

variable {policy : UnresolvedPolicy} {ctx : Context} {w : World}

/-- The failure of asking for a provider that is not registered. -/
def unknownProvider (name : String) : Failure :=
  .plain .providerUnavailable ("unknown provider '" ++ name ++ "'")

theorem prepareNamed_of_no_entries (hw : w.providers.entries = []) (name : String) (c : ApiCall) :
    c.prepareNamed policy ctx w name = .error (unknownProvider name) := by
  have hfind : w.providers.find? name = none := by simp [Providers.find?, hw]
  simp [prepareNamed, Providers.require, hfind, unknownProvider, bind, Except.bind]

/-- There, what becomes of a call shows only what its provider's text is rendered to. -/
theorem prepare_of_no_entries (hw : w.providers.entries = []) (text : String) (c : ApiCall) :
    (c.withProvider text).prepare policy ctx w
      = ctx.render policy text >>= fun name => .error (unknownProvider name) := by
  rw [prepare_withProvider]
  simp only [prepareNamed_of_no_entries hw]

theorem unknownProvider_inj {name other : String}
    (h : unknownProvider name = unknownProvider other) : name = other := by
  simpa [unknownProvider] using h

/-- A name whose rendering is answered in the same way as the name itself is rendered to itself. -/
theorem render_eq_of_answered_alike {name : String}
    (h : (ctx.render policy name >>= fun name => .error (unknownProvider name))
      = (.error (unknownProvider name) : Except Failure PreparedCall)) :
    ctx.render policy name = .ok name := by
  cases hrender : ctx.render policy name with
  | ok other =>
      rw [hrender] at h
      rw [unknownProvider_inj (Except.error.inj h)]
  | error f =>
      rw [hrender] at h
      have hinvalid : OnlyFails (fun f => ∃ detail, f = .invalid detail) (ctx.render policy name) :=
        (Template.onlyFails_render ctx.resolve policy _).map
      obtain ⟨detail, rfl⟩ := hinvalid f hrender
      cases Except.error.inj h

end ApiCall

namespace Surroundings

variable (s : Surroundings) (ctx : Context)

theorem batchFrom_eq_deliverInTurn (name : String) (w : World) (calls : List ApiCall) :
    s.batchFrom ctx name w calls
      = s.deliverInTurn (fun w c => (c.withProvider name).prepare s.config.unresolved ctx w) w
          calls := by
  induction calls generalizing w with
  | nil => rfl
  | cons c rest ih =>
      have hcall : s.callOne ctx w (c.withProvider name)
          = s.deliver w ((c.withProvider name).prepare s.config.unresolved ctx w) := rfl
      rw [batchFrom, deliverInTurn, hcall]
      split <;> simp_all

/-- A batch renders its text, and then each call renders what came out of it. -/
theorem perform_batch (w : World) (text : String) (calls : List ApiCall) :
    s.perform ctx w (.batch text calls) =
      match ctx.render s.config.unresolved text with
      | .error f => (.error (.failed f), w)
      | .ok name => concludeBatch name (s.deliverInTurn
          (fun w c => (c.withProvider name).prepare s.config.unresolved ctx w) w calls) := by
  rw [perform]
  cases ctx.render s.config.unresolved text with
  | error f => rfl
  | ok name =>
      dsimp only
      rw [callBatch, batchFrom_eq_deliverInTurn]
      generalize s.deliverInTurn _ w calls = ended
      obtain ⟨ended, w'⟩ := ended
      cases ended with
      | error stop => rfl
      | ok slots =>
          cases hresult : batchResult slots with
          | error f => simp [concludeBatch, hresult, Ended.of, Except.map]
          | ok v => simp [concludeBatch, hresult, Ended.of, Except.map]

/-- Calls that are all refused alike before they are sent leave the world as it was. -/
theorem deliverInTurn_of_refused {prepare : World → ApiCall → Except Failure PreparedCall}
    {w : World} {f : Failure} (h : ∀ c, prepare w c = .error f) (calls : List ApiCall) :
    s.deliverInTurn prepare w calls = (.ok (calls.map fun _ => .error f), w) := by
  induction calls with
  | nil => rfl
  | cons c rest ih => simp [deliverInTurn, h c, deliver, ih, Except.map]

theorem outcomesOf_refused (f : Failure) (calls : List ApiCall) :
    outcomesOf (calls.map fun _ => .error f) = ([], calls.map fun _ => f) := by
  rw [outcomesOf, List.filterMap_map, List.filterMap_map]
  refine Prod.ext (List.filterMap_eq_nil_iff.2 fun _ _ => rfl) ?_
  exact congrFun List.filterMap_eq_map calls

theorem concludeBatch_of_refused (name : String) (f : Failure) (w : World) (c : ApiCall)
    (rest : List ApiCall) :
    concludeBatch name (.ok ((c :: rest).map fun _ => .error f), w)
      = (.error (.failed (.allFailed ((c :: rest).map fun _ => f))), w) := by
  rw [concludeBatch, batchResult, outcomesOf_refused]
  simp [Ended.of, Except.map]

theorem perform_call (w : World) (c : ApiCall) :
    s.perform ctx w (.call c) = s.performOnce ctx w (.call c) := by
  have hcall : s.callOne ctx w c = s.deliver w (c.prepareOnce s.config.unresolved ctx w) := by
    rw [← ApiCall.prepare_eq_prepareOnce]
    rfl
  exact congrArg concludeCall hcall

theorem perform_parallel (w : World) (calls : List ApiCall) :
    s.perform ctx w (.parallel calls) = s.performOnce ctx w (.parallel calls) := by
  have hall : s.callParallel ctx w calls
      = s.deliverAll w (calls.map (·.prepareOnce s.config.unresolved ctx w)) := by
    simp only [← ApiCall.prepare_eq_prepareOnce]
    rfl
  exact congrArg concludeParallel hall

/-- A batch whose name is settled is carried out with one rendering. -/
theorem perform_batch_of_settled {text : String} {calls : List ApiCall}
    (h : (Act.batch text calls).NamesSettled s.config.unresolved ctx) (w : World) :
    s.perform ctx w (.batch text calls) = s.performOnce ctx w (.batch text calls) := by
  rw [perform_batch, performOnce]
  cases hrender : ctx.render s.config.unresolved text with
  | error f => rfl
  | ok name =>
      rcases h with rfl | hsettled
      · rfl
      · have hprepare : (fun (w : World) (c : ApiCall) =>
            (c.withProvider name).prepare s.config.unresolved ctx w)
              = fun w c => c.prepareNamed s.config.unresolved ctx w name := by
          funext w c
          rw [ApiCall.prepare_withProvider, hsettled name hrender]
          rfl
        simp only [hprepare]

/-- Where nothing is registered, every call of a batch fails with the name that the second rendering
gives. -/
theorem perform_batch_of_no_entries {w : World} (hw : w.providers.entries = []) {text name : String}
    (hrender : ctx.render s.config.unresolved text = .ok name) {f : Failure}
    (hf : (ctx.render s.config.unresolved name >>= fun name =>
      .error (ApiCall.unknownProvider name) : Except Failure PreparedCall) = .error f)
    (c : ApiCall) (rest : List ApiCall) :
    s.perform ctx w (.batch text (c :: rest))
      = (.error (.failed (.allFailed ((c :: rest).map fun _ => f))), w) := by
  have hprepare (c : ApiCall) :
      (c.withProvider name).prepare s.config.unresolved ctx w = .error f :=
    (ApiCall.prepare_of_no_entries hw name c).trans hf
  rw [perform_batch, hrender]
  dsimp only
  rw [s.deliverInTurn_of_refused hprepare, concludeBatch_of_refused]

/-- With one rendering it would fail with the name itself. -/
theorem performOnce_batch_of_no_entries {w : World} (hw : w.providers.entries = [])
    {text name : String} (hrender : ctx.render s.config.unresolved text = .ok name) (c : ApiCall)
    (rest : List ApiCall) :
    s.performOnce ctx w (.batch text (c :: rest))
      = (.error (.failed (.allFailed
          ((c :: rest).map fun _ => ApiCall.unknownProvider name))), w) := by
  have hprepare (c : ApiCall) : c.prepareNamed s.config.unresolved ctx w name
      = .error (ApiCall.unknownProvider name) := ApiCall.prepareNamed_of_no_entries hw name c
  rw [performOnce, hrender]
  dsimp only
  rw [s.deliverInTurn_of_refused hprepare, concludeBatch_of_refused]

/-- A batch that is carried out with one rendering where nothing is registered has its name
settled. -/
theorem settled_of_perform_batch_eq {w : World} (hw : w.providers.entries = []) {text : String}
    {calls : List ApiCall}
    (h : s.perform ctx w (.batch text calls) = s.performOnce ctx w (.batch text calls)) :
    (Act.batch text calls).NamesSettled s.config.unresolved ctx := by
  cases calls with
  | nil => exact .inl rfl
  | cons c rest =>
      refine .inr ?_
      intro name hrender
      obtain ⟨f, hf⟩ : ∃ f : Failure, (ctx.render s.config.unresolved name >>= fun name =>
          .error (ApiCall.unknownProvider name) : Except Failure PreparedCall) = .error f := by
        cases ctx.render s.config.unresolved name with
        | error f => exact ⟨f, rfl⟩
        | ok other => exact ⟨_, rfl⟩
      rw [s.perform_batch_of_no_entries ctx hw hrender hf,
        s.performOnce_batch_of_no_entries ctx hw hrender] at h
      simp only [List.map_cons, Prod.mk.injEq, Except.error.injEq, Stop.failed.injEq,
        Failure.allFailed.injEq, List.cons.injEq, and_true] at h
      exact ApiCall.render_eq_of_answered_alike (by rw [hf, h.1])

theorem perform_eq_performOnce_iff (act : Act) :
    (∀ w, s.perform ctx w act = s.performOnce ctx w act) ↔
      act.NamesSettled s.config.unresolved ctx := by
  cases act with
  | batch text calls =>
      constructor
      · intro h
        exact s.settled_of_perform_batch_eq ctx rfl (h ⟨0, .empty .standard, [], []⟩)
      · exact fun h w => s.perform_batch_of_settled ctx h w
  | call c => exact ⟨fun _ => trivial, fun _ w => s.perform_call ctx w c⟩
  | parallel calls => exact ⟨fun _ => trivial, fun _ w => s.perform_parallel ctx w calls⟩
  | calculate operation params => exact ⟨fun _ => trivial, fun _ _ => rfl⟩
  | format template => exact ⟨fun _ => trivial, fun _ _ => rfl⟩
  | transform input function places => exact ⟨fun _ => trivial, fun _ _ => rfl⟩
  | fail e => exact ⟨fun _ => trivial, fun _ _ => rfl⟩
  | custom action params => exact ⟨fun _ => trivial, fun _ _ => rfl⟩

/-- A call of a batch is prepared like a single call with the same text exactly if rendering leaves
the name alone that comes out of it. -/
theorem prepare_batch_eq_iff (policy : UnresolvedPolicy) {text name : String}
    (hrender : ctx.render policy text = .ok name) :
    (∀ (w : World) (c : ApiCall), (c.withProvider name).prepare policy ctx w
        = (c.withProvider text).prepare policy ctx w) ↔
      ctx.render policy name = .ok name := by
  have htext (w : World) (c : ApiCall) : (c.withProvider text).prepare policy ctx w
      = c.prepareNamed policy ctx w name := by
    rw [ApiCall.prepare_withProvider, hrender]
    rfl
  constructor
  · intro h
    have hnone := (h ⟨0, .empty .standard, [], []⟩ default).trans (htext _ _)
    rw [ApiCall.prepare_of_no_entries rfl, ApiCall.prepareNamed_of_no_entries rfl] at hnone
    exact ApiCall.render_eq_of_answered_alike hnone
  · intro hsettled w c
    rw [htext, ApiCall.prepare_withProvider, hsettled]
    rfl

/-- **One rendering.**  In a context an instruction is carried out with each text that names a
provider rendered once, in whatever world, exactly if it is no batch of calls, or a batch whose name
rendering leaves alone.  This goes for the instructions that address a fallback as well, since they
are instructions themselves.  And exactly then does a batch ask for the provider that a single call
with the same text asks for. -/
theorem provider_text_rendered_once_iff (act : Act) :
    ((∀ w, s.perform ctx w act = s.performOnce ctx w act) ↔
      act.NamesSettled s.config.unresolved ctx) ∧
    ∀ text name, ctx.render s.config.unresolved text = .ok name →
      ((∀ (w : World) (c : ApiCall), (c.withProvider name).prepare s.config.unresolved ctx w
          = (c.withProvider text).prepare s.config.unresolved ctx w) ↔
        ctx.render s.config.unresolved name = .ok name) :=
  ⟨s.perform_eq_performOnce_iff ctx act,
    fun _ _ hrender => prepare_batch_eq_iff ctx s.config.unresolved hrender⟩

/-- The text `${y}` that a value brings in is read as a reference when a batch renders the name that
came out of `${x}` again: the provider asked for is not the one of that name. -/
theorem batch_rereads_name :
    let s : Surroundings := ⟨fun _ _ => ⟨some 0, .ok ⟨200, .null⟩⟩, .standard, none⟩
    let ctx : Context := ⟨[("x", .text "${y}"), ("y", .text "alpha")]⟩
    let w : World := ⟨0, .empty .standard, [], []⟩
    s.perform ctx w (.batch "${x}" [default])
        = (.error (.failed (.allFailed [ApiCall.unknownProvider "alpha"])), w) ∧
      s.performOnce ctx w (.batch "${x}" [default])
        = (.error (.failed (.allFailed [ApiCall.unknownProvider "${y}"])), w) := by
  intro s ctx w
  have hparse : Template.parse "${x}" = [.reference ⟨"x", none, "${x}".toList⟩] := by
    decide +kernel
  have hreparse : Template.parse "${y}" = [.reference ⟨"y", none, "${y}".toList⟩] := by
    decide +kernel
  have hx : ctx.render s.config.unresolved "${x}" = .ok "${y}" := by
    rw [Context.render, hparse]
    rfl
  have hy : ctx.render s.config.unresolved "${y}" = .ok "alpha" := by
    rw [Context.render, hreparse]
    rfl
  refine ⟨?_, ?_⟩
  · exact s.perform_batch_of_no_entries ctx rfl hx (by rw [hy]; rfl) default []
  · exact s.performOnce_batch_of_no_entries ctx rfl hx default []

end Surroundings

end Planwright
