import Planwright.Proofs.Execution.Traffic

set_option autoImplicit false

/-!
# The order in which calls in parallel end

Calls in parallel are sent together, and each ends in its own time.  What becomes of a call is kept
in the place of the call, and the counters of a provider count its calls in whatever order they end.
So neither the result of the step nor any counter depends on the order of the ends, and with it on
how long the answers take (`fan_out_order_free`), as long as no answer comes too late to be counted.
-/

namespace Planwright

open Fallible

/-! ## Landing in any order -/

theorem ProviderEntry.recordCall_comm (e : ProviderEntry) (ended ended' : Nat)
    (success success' : Bool) :
    (e.recordCall ended success).recordCall ended' success'
      = (e.recordCall ended' success').recordCall ended success := by
  have hlast : max ended' (max ended (e.lastUsed.getD 0))
      = max ended (max ended' (e.lastUsed.getD 0)) := by
    omega
  simp only [recordCall, Option.getD_some, hlast]
  cases success <;> cases success' <;> rfl

/-- The entry of a provider after a call has landed. -/
def Flight.recorded (f : Flight) (e : ProviderEntry) : ProviderEntry :=
  if e.id = f.provider then e.recordCall f.landsAt f.answer.isOk else e

theorem Flight.id_recorded (f : Flight) (e : ProviderEntry) : (f.recorded e).id = e.id := by
  unfold recorded
  split <;> rfl

theorem Flight.recorded_comm (f g : Flight) (e : ProviderEntry) :
    g.recorded (f.recorded e) = f.recorded (g.recorded e) := by
  by_cases hf : e.id = f.provider
  · by_cases hg : e.id = g.provider
    · rw [recorded, id_recorded, if_pos hg, recorded, if_pos hf]
      rw [recorded, id_recorded, if_pos hf, recorded, if_pos hg, ProviderEntry.recordCall_comm]
    · rw [recorded, id_recorded, if_neg hg]
      exact congrArg f.recorded (if_neg hg).symm
  · rw [recorded.eq_def f (g.recorded e), id_recorded, if_neg hf]
    exact congrArg g.recorded (if_neg hf)

namespace World

theorem entries_land (w : World) (f : Flight) :
    (w.land f).providers.entries = w.providers.entries.map f.recorded := rfl

theorem land_comm (w : World) (f g : Flight) : (w.land f).land g = (w.land g).land f := by
  have hentries : (w.providers.entries.map f.recorded).map g.recorded
      = (w.providers.entries.map g.recorded).map f.recorded := by
    rw [List.map_map, List.map_map]
    exact List.map_congr_left fun e _ => f.recorded_comm g e
  exact congrArg (fun entries => w.withProviders ⟨entries, w.providers.config⟩) hentries

/-- The order in which calls land leaves no mark. -/
theorem foldl_land_perm {flights flights' : List Flight} (h : flights.Perm flights') (w : World) :
    flights.foldl land w = flights'.foldl land w :=
  h.foldl_eq' (fun f _ g _ w => w.land_comm f g) w

end World

/-! ## Ending in any order -/

/-- Where calls in parallel stand: what has become of each of them, if it has ended, and the
world. -/
structure FanOut where
  results : List (Option (Except Failure Value))
  world : World

namespace FanOut

/-- No call has ended. -/
def opening (slots : List Slot) (w : World) : FanOut := ⟨slots.map fun _ => none, w⟩

/-- A call ends: what has become of it is put in its place, and if it was sent then it lands. -/
def finish (slots : List Slot) (t : FanOut) (i : Nat) : FanOut :=
  match slots[i]? with
  | none => t
  | some slot => ⟨t.results.set i (some slot.result), slot.flight?.elim t.world t.world.land⟩

/-- Calls end in an order. -/
def finishAll (slots : List Slot) (t : FanOut) (order : List Nat) : FanOut :=
  order.foldl (finish slots) t

variable (slots : List Slot)

theorem length_finish (t : FanOut) (i : Nat) :
    (finish slots t i).results.length = t.results.length := by
  unfold finish
  split
  · rfl
  · exact List.length_set

/-- A place is written when its call ends, and only then. -/
theorem getElem?_finish {t : FanOut} (h : t.results.length = slots.length) (i j : Nat) :
    (finish slots t i).results[j]?
      = if i = j then slots[j]?.map fun slot => some slot.result else t.results[j]? := by
  unfold finish
  cases hslot : slots[i]? with
  | none =>
      by_cases hij : i = j
      · subst hij
        have hnone : t.results[i]? = none := by
          rw [List.getElem?_eq_none_iff] at hslot ⊢
          omega
        rw [hnone, if_pos rfl, hslot]
        rfl
      · rw [if_neg hij]
  | some slot =>
      by_cases hij : i = j
      · subst hij
        have hlt : i < t.results.length := h ▸ (List.getElem?_eq_some_iff.1 hslot).1
        rw [List.getElem?_set_self hlt, if_pos rfl, hslot]
        rfl
      · rw [if_neg hij, List.getElem?_set_ne hij]

theorem getElem?_finishAll {t : FanOut} (h : t.results.length = slots.length) (order : List Nat)
    (j : Nat) :
    (finishAll slots t order).results[j]?
      = if j ∈ order then slots[j]?.map fun slot => some slot.result else t.results[j]? := by
  induction order generalizing t with
  | nil => rfl
  | cons i order ih =>
      have hlength : (finish slots t i).results.length = slots.length :=
        (length_finish slots t i).trans h
      change (finishAll slots (finish slots t i) order).results[j]? = _
      rw [ih hlength, getElem?_finish slots h]
      by_cases hj : j ∈ order
      · simp [hj]
      · by_cases hij : i = j
        · simp [hij]
        · simp [hj, hij, Ne.symm hij]

theorem world_finishAll (t : FanOut) (order : List Nat) :
    (finishAll slots t order).world
      = (order.filterMap fun i => slots[i]?.bind Slot.flight?).foldl World.land t.world := by
  induction order generalizing t with
  | nil => rfl
  | cons i order ih =>
      change (finishAll slots (finish slots t i) order).world = _
      rw [ih]
      unfold finish
      cases hslot : slots[i]? with
      | none => simp [hslot]
      | some slot => cases hflight : slot.flight? <;> simp [hslot, hflight]

theorem filterMap_range_flight? :
    ((List.range slots.length).filterMap fun i => slots[i]?.bind Slot.flight?)
      = slots.filterMap Slot.flight? := by
  have hplaces : (List.range slots.length).map (fun i => slots[i]?) = slots.map some := by
    refine List.ext_getElem (by simp) fun i hi _ => ?_
    rw [List.length_map, List.length_range] at hi
    simp [hi]
  calc ((List.range slots.length).filterMap fun i => slots[i]?.bind Slot.flight?)
      = ((List.range slots.length).map fun i => slots[i]?).filterMap (·.bind Slot.flight?) := by
        rw [List.filterMap_map]
        rfl
    _ = slots.filterMap Slot.flight? := by
        rw [hplaces, List.filterMap_map]
        rfl

/-- **Every order of the ends.**  When all calls have ended, each exactly once, then every place
holds what became of its call, and the world is the one in which the flights have landed in the
order in which they were sent. -/
theorem finishAll_of_perm {order : List Nat} (h : order.Perm (List.range slots.length))
    (w : World) :
    finishAll slots (opening slots w) order
      = ⟨slots.map fun slot => some slot.result,
          (slots.filterMap Slot.flight?).foldl World.land w⟩ := by
  have hresults : (finishAll slots (opening slots w) order).results
      = slots.map fun slot => some slot.result := by
    refine List.ext_getElem? fun j => ?_
    rw [getElem?_finishAll slots (List.length_map ..), List.getElem?_map]
    by_cases hj : j < slots.length
    · rw [if_pos (h.mem_iff.2 (List.mem_range.2 hj))]
    · have hnone : slots[j]? = none := List.getElem?_eq_none_iff.2 (Nat.le_of_not_lt hj)
      rw [if_neg fun hmem => hj (List.mem_range.1 (h.mem_iff.1 hmem)), opening, List.getElem?_map,
        hnone]
      rfl
  have hworld : (finishAll slots (opening slots w) order).world
      = (slots.filterMap Slot.flight?).foldl World.land w := by
    rw [world_finishAll, World.foldl_land_perm (h.filterMap _), filterMap_range_flight?]
    rfl
  rw [← hresults, ← hworld]

end FanOut

/-! ## Answers that differ in their delays only -/

/-- Two replies give the same answer, each in time. -/
structure Reply.Alike (timeout : Nat) (r r' : Reply) : Prop where
  answer : r'.answer = r.answer
  inTime : ∃ d, r.delayMs = some d ∧ d ≤ timeout
  inTime' : ∃ d, r'.delayMs = some d ∧ d ≤ timeout

theorem Reply.received_of_inTime {r : Reply} {timeout : Nat}
    (h : ∃ d, r.delayMs = some d ∧ d ≤ timeout) : r.received timeout = r.answer := by
  obtain ⟨d, hd, hle⟩ := h
  simp only [received, hd, if_pos hle]

/-- From one world to another, two networks give the same answers in time to all requests that are
sent. -/
def World.AnsweredAlike (network network' : Network) (w w' : World) : Prop :=
  ∀ before r behind, w'.sent = before ++ r :: behind → w.sent.length ≤ before.length →
    Reply.Alike r.timeoutMs (network before r) (network' before r)

theorem World.AnsweredAlike.split {network network' : Network} {w w' w'' : World}
    (h : w.AnsweredAlike network network' w'') (hfirst : ∃ new, w'.sent = w.sent ++ new)
    (hlater : ∃ more, w''.sent = w'.sent ++ more) :
    w.AnsweredAlike network network' w' ∧ w'.AnsweredAlike network network' w'' := by
  obtain ⟨new, hnew⟩ := hfirst
  obtain ⟨more, hmore⟩ := hlater
  constructor
  · intro before r behind hsent hbefore
    exact h before r (behind ++ more) (by rw [hmore, hsent]; simp) hbefore
  · intro before r behind hsent hbefore
    refine h before r behind hsent (Nat.le_trans ?_ hbefore)
    rw [hnew, List.length_append]
    exact Nat.le_add_right _ _

/-- The flight without the instant at which it lands. -/
def Flight.timeless (f : Flight) : Flight := { f with landsAt := 0 }

/-- The call without the instant at which it lands, if it was sent. -/
def Slot.timeless (slot : Slot) : Slot := Except.map (fun p => (p.1.timeless, p.2)) slot

/-- What becomes of calls does not depend on when they land. -/
theorem Slot.map_result_timeless (slots : List Slot) :
    (slots.map timeless).map result = slots.map result := by
  rw [List.map_map]
  refine List.map_congr_left fun slot _ => ?_
  cases slot <;> rfl

theorem Slot.filterMap_flight?_timeless (slots : List Slot) :
    (slots.map timeless).filterMap flight? = (slots.filterMap flight?).map Flight.timeless := by
  rw [List.filterMap_map, List.map_filterMap]
  refine List.filterMap_congr fun slot _ => ?_
  cases slot <;> rfl

theorem Slot.timeless_map (sent : Except Failure Flight) (p : PreparedCall) :
    Slot.timeless (sent.map fun f => (f, p)) = (sent.map Flight.timeless).map fun f => (f, p) := by
  cases sent <;> rfl

theorem Request.timeoutMs_of_build {provider : String} {manifest : Manifest} {spec : CallSpec}
    {timeout : Nat} {request : Request}
    (h : Request.build provider manifest spec timeout = .ok request) :
    request.timeoutMs = timeout := by
  unfold build at h
  split at h
  · cases h
  · split at h
    · cases h
    · obtain rfl := Except.ok.inj h
      rfl

namespace World

/-- A call is sent or refused alike, and if it is sent then it gets the same answer. -/
theorem launch_alike {network network' : Network} (w : World) (e : ProviderEntry) (spec : CallSpec)
    (timeout : Nat)
    (halike : w.AnsweredAlike network network' (w.launch network e spec timeout).2) :
    (w.launch network' e spec timeout).2 = (w.launch network e spec timeout).2 ∧
      (w.launch network' e spec timeout).1.map Flight.timeless
        = (w.launch network e spec timeout).1.map Flight.timeless := by
  unfold launch at halike ⊢
  dsimp only at halike ⊢
  cases hbuilt : Request.build e.id e.manifest spec (e.manifest.timeoutMs.getD timeout) with
  | error f => exact ⟨rfl, rfl⟩
  | ok request =>
      have hsent := w.sent_tryAdmit e.id
      rcases hadmits : w.tryAdmit e.id with ⟨admits, w'⟩
      rw [hadmits] at hsent
      cases admits with
      | false => exact ⟨rfl, rfl⟩
      | true =>
          refine ⟨rfl, ?_⟩
          have hreply := halike w'.sent request [] (by simp [hbuilt, hadmits, send])
            (Nat.le_of_eq (by rw [hsent]))
          rw [Request.timeoutMs_of_build hbuilt] at hreply
          simp only [Except.map, Flight.timeless, Reply.received_of_inTime hreply.inTime,
            Reply.received_of_inTime hreply.inTime', hreply.answer]

end World

/-! ## Counters -/

/-- The counters of the providers, of calls and of failed calls, in the order of registration. -/
def Providers.tally (r : Providers) : List (String × Nat × Nat) :=
  r.entries.map fun e => (e.id, e.callCount, e.errorCount)

/-- The counters of a provider after a call has landed. -/
def Flight.counted (f : Flight) (t : String × Nat × Nat) : String × Nat × Nat :=
  if t.1 = f.provider then
    (t.1, t.2.1 + 1, if f.answer.isOk then t.2.2 else t.2.2 + 1)
  else t

theorem World.tally_land (w : World) (f : Flight) :
    (w.land f).providers.tally = w.providers.tally.map f.counted := by
  have hentry : ∀ e : ProviderEntry,
      ((f.recorded e).id, (f.recorded e).callCount, (f.recorded e).errorCount)
        = f.counted (e.id, e.callCount, e.errorCount) := by
    intro e
    unfold Flight.recorded Flight.counted
    split <;> rfl
  rw [Providers.tally, World.entries_land, Providers.tally, List.map_map, List.map_map]
  exact List.map_congr_left fun e _ => hentry e

/-- The counters do not show when the calls have landed. -/
theorem World.tally_foldl_land {flights flights' : List Flight}
    (h : flights'.map Flight.timeless = flights.map Flight.timeless) {w w' : World}
    (hw : w'.providers.tally = w.providers.tally) :
    (flights'.foldl World.land w').providers.tally
      = (flights.foldl World.land w).providers.tally := by
  induction flights generalizing flights' w w' with
  | nil =>
      rw [List.map_nil, List.map_eq_nil_iff] at h
      rw [h]
      exact hw
  | cons f flights ih =>
      obtain ⟨f', rest', rfl, hf, hrest⟩ := List.map_eq_cons_iff.1 h
      have hcounted : f'.counted = f.counted := by
        have htimeless : ∀ f : Flight, f.counted = f.timeless.counted := fun _ => rfl
        rw [htimeless f', hf, ← htimeless]
      refine ih hrest ?_
      rw [World.tally_land, World.tally_land, hcounted, hw]

namespace Surroundings

variable (s : Surroundings) (ctx : Context)

/-! ## What becomes of each call -/

/-- The calls of a step in parallel, sent or refused, and the world when the last was sent. -/
def sendAll (w : World) (calls : List ApiCall) : List Slot × World :=
  s.launchAll w (calls.map fun c => c.prepare s.config.unresolved ctx w)

/-- What becomes of prepared calls that are sent in their order at the same instant. -/
def settleEach : World → List (Except Failure PreparedCall) → List (Except Failure Value)
  | _, [] => []
  | w, .error f :: rest => .error f :: settleEach w rest
  | w, .ok p :: rest =>
    let (sent, w) := w.launch s.network p.entry p.spec s.config.callTimeoutMs
    (sent.bind fun f => f.answer.bind p.finish) :: settleEach w rest

theorem map_result_launchAll (w : World) (prepared : List (Except Failure PreparedCall)) :
    (s.launchAll w prepared).1.map Slot.result = s.settleEach w prepared := by
  induction prepared generalizing w with
  | nil => rfl
  | cons slot rest ih =>
      cases slot with
      | error f => exact congrArg _ (ih w)
      | ok p =>
          rw [launchAll, settleEach]
          dsimp only
          rw [List.map_cons, ih]
          cases (w.launch s.network p.entry p.spec s.config.callTimeoutMs).1 <;> rfl

theorem length_settleEach (w : World) (prepared : List (Except Failure PreparedCall)) :
    (s.settleEach w prepared).length = prepared.length := by
  induction prepared generalizing w with
  | nil => rfl
  | cons slot rest ih => cases slot <;> exact congrArg _ (ih _)

/-- Sending only adds to the requests. -/
theorem sent_launch (w : World) (e : ProviderEntry) (spec : CallSpec) (timeout : Nat) :
    ∃ new, (w.launch s.network e spec timeout).2.sent = w.sent ++ new := by
  have hlaunched := w.launched s.network e spec timeout
  generalize w.launch s.network e spec timeout = result at hlaunched ⊢
  cases hlaunched with
  | fault _ => exact ⟨[], (List.append_nil _).symm⟩
  | full _ => exact ⟨[], by rw [World.sent_tryAdmit, List.append_nil]⟩
  | @sent request _ _ _ _ => exact ⟨[request], by rw [World.send, World.sent_tryAdmit]⟩

theorem sent_launchAll (w : World) (prepared : List (Except Failure PreparedCall)) :
    ∃ new, (s.launchAll w prepared).2.sent = w.sent ++ new := by
  induction prepared generalizing w with
  | nil => exact ⟨[], (List.append_nil _).symm⟩
  | cons slot rest ih =>
      cases slot with
      | error f => exact ih w
      | ok p =>
          obtain ⟨new, hnew⟩ := s.sent_launch w p.entry p.spec s.config.callTimeoutMs
          obtain ⟨more, hmore⟩ := ih (w.launch s.network p.entry p.spec s.config.callTimeoutMs).2
          refine ⟨new ++ more, ?_⟩
          rw [launchAll]
          dsimp only
          rw [hmore, hnew, List.append_assoc]

/-- The same surroundings with another network. -/
def withNetwork (network : Network) : Surroundings := { s with network := network }

theorem launchAll_alike (network : Network) (w : World)
    (prepared : List (Except Failure PreparedCall))
    (halike : w.AnsweredAlike s.network network (s.launchAll w prepared).2) :
    ((s.withNetwork network).launchAll w prepared).2 = (s.launchAll w prepared).2 ∧
      ((s.withNetwork network).launchAll w prepared).1.map Slot.timeless
        = (s.launchAll w prepared).1.map Slot.timeless := by
  induction prepared generalizing w with
  | nil => exact ⟨rfl, rfl⟩
  | cons slot rest ih =>
      cases slot with
      | error f =>
          obtain ⟨hworld, hslots⟩ := ih w halike
          exact ⟨hworld, congrArg (Slot.timeless (.error f) :: ·) hslots⟩
      | ok p =>
          rw [launchAll] at halike
          obtain ⟨hfirst, hlater⟩ := halike.split
            (s.sent_launch w p.entry p.spec s.config.callTimeoutMs) (s.sent_launchAll _ rest)
          obtain ⟨hsentTo, hflight⟩ := w.launch_alike p.entry p.spec s.config.callTimeoutMs hfirst
          obtain ⟨hworld, hslots⟩ := ih _ hlater
          rw [launchAll, launchAll]
          dsimp only [withNetwork] at hsentTo hflight hworld hslots ⊢
          rw [hsentTo]
          refine ⟨hworld, ?_⟩
          rw [List.map_cons, List.map_cons, hslots, Slot.timeless_map, Slot.timeless_map, hflight]

/-- What became of the calls of a step in parallel, one result for each call, in their order. -/
def branchResults (w : World) (calls : List ApiCall) : List (Except Failure Value) :=
  s.settleEach w (calls.map fun c => c.prepare s.config.unresolved ctx w)

theorem map_result_sendAll (w : World) (calls : List ApiCall) :
    (s.sendAll ctx w calls).1.map Slot.result = s.branchResults ctx w calls :=
  s.map_result_launchAll w _

theorem length_branchResults (w : World) (calls : List ApiCall) :
    (s.branchResults ctx w calls).length = calls.length := by
  rw [branchResults, length_settleEach, List.length_map]

/-- If the caller does not give up, the step ends when the last call has ended. -/
theorem perform_parallel_of_ne_interrupted {w : World} {calls : List ApiCall}
    (h : (s.perform ctx w (.parallel calls)).1 ≠ .error .interrupted) :
    ∃ ended, s.perform ctx w (.parallel calls)
      = (.of ((parallelResult (s.branchResults ctx w calls)).map fun v => (v, none)),
          (((s.sendAll ctx w calls).1.filterMap Slot.flight?).foldl World.land
            (s.sendAll ctx w calls).2).at_ ended) := by
  have hcases : (s.callParallel ctx w calls).1 = .error .interrupted ∨
      ∃ ended, s.callParallel ctx w calls
        = (.of (parallelResult ((s.sendAll ctx w calls).1.map Slot.result)),
            (((s.sendAll ctx w calls).1.filterMap Slot.flight?).foldl World.land
              (s.sendAll ctx w calls).2).at_ ended) := by
    unfold callParallel sendAll
    dsimp only
    split
    · exact .inl rfl
    · exact .inr ⟨_, rfl⟩
  rcases hcases with hcut | ⟨ended, hcall⟩
  · rcases hcall : s.callParallel ctx w calls with ⟨stop, w'⟩
    rw [hcall] at hcut
    rw [perform, hcall] at h
    obtain rfl : stop = .error .interrupted := hcut
    exact absurd rfl h
  · refine ⟨ended, ?_⟩
    rw [perform, hcall, map_result_sendAll]
    cases parallelResult (s.branchResults ctx w calls) <;> rfl

/-- A caller who never gives up is not interrupted. -/
theorem perform_parallel_ne_interrupted (hcut : s.cut = none) (w : World) (calls : List ApiCall) :
    (s.perform ctx w (.parallel calls)).1 ≠ .error .interrupted := by
  have hnever : ∀ instant, s.cutsBefore instant = false := by
    intro instant
    rw [cutsBefore, hcut]
    rfl
  unfold perform callParallel
  dsimp only
  rw [if_neg (by rw [hnever]; exact Bool.false_ne_true)]
  cases parallelResult _ <;> (intro h; cases h)

end Surroundings

/-! ## The result of the step -/

/-- How a step of calls in parallel ends, from what became of each call. -/
inductive Concluded (results : List (Except Failure Value)) : Ended Performed → Prop where
  /-- there are calls, and all of them failed: one failure for each, in their order -/
  | failed (failures : List Failure) (any : failures ≠ []) (all : results = failures.map .error) :
      Concluded results (.error (.failed (.allFailed failures)))
  /-- a call succeeded, or there are none: the values of those that succeeded, in their order -/
  | succeeded (successful : List Value) (failures : List Failure)
      (some : successful ≠ [] ∨ results = [])
      (values : successful = results.filterMap Except.toOption)
      (count : successful.length + failures.length = results.length) :
      Concluded results (.ok (.ofMembers [("successful", .list successful),
        ("failed", .ofNat failures.length), ("total", .ofNat results.length)], none))

theorem length_outcomesOf (results : List (Except Failure Value)) :
    (outcomesOf results).1.length + (outcomesOf results).2.length = results.length := by
  induction results with
  | nil => rfl
  | cons r rest ih =>
      unfold outcomesOf at ih ⊢
      cases r with
      | ok v => simp only [List.filterMap_cons, Except.toOption, List.length_cons] at ih ⊢; omega
      | error f => simp only [List.filterMap_cons, Except.toOption, List.length_cons] at ih ⊢; omega

/-- If no call succeeded then each gave one failure. -/
theorem eq_map_error_of_outcomesOf {results : List (Except Failure Value)}
    (h : (outcomesOf results).1 = []) : results = (outcomesOf results).2.map .error := by
  induction results with
  | nil => rfl
  | cons r rest ih =>
      unfold outcomesOf at ih h ⊢
      cases r with
      | ok v => simp [Except.toOption] at h
      | error f =>
          simp only [List.filterMap_cons, Except.toOption] at ih h ⊢
          rw [List.map_cons, ← ih h]

theorem concluded_parallelResult (results : List (Except Failure Value)) :
    Concluded results (.of ((Surroundings.parallelResult results).map fun v => (v, none))) := by
  have hlength := length_outcomesOf results
  unfold Surroundings.parallelResult
  rcases houtcomes : outcomesOf results with ⟨successful, failures⟩
  rw [houtcomes] at hlength
  dsimp only at hlength ⊢
  split
  · next hfailed =>
    rw [Bool.and_eq_true, List.isEmpty_iff, Bool.not_eq_true', List.isEmpty_eq_false_iff] at hfailed
    have hnone : (outcomesOf results).1 = [] := by rw [houtcomes]; exact hfailed.2
    have hall := eq_map_error_of_outcomesOf hnone
    rw [houtcomes] at hall
    refine .failed failures (fun hnil => hfailed.1 ?_) hall
    rw [hall, hnil]
    rfl
  · next hsucceeded =>
    refine .succeeded successful failures ?_ (congrArg Prod.fst houtcomes).symm hlength
    rw [Bool.and_eq_true, List.isEmpty_iff, Bool.not_eq_true', List.isEmpty_eq_false_iff,
      not_and_or, not_not] at hsucceeded
    exact hsucceeded.symm

/-- The step fails exactly if there are calls and all of them failed. -/
theorem Concluded.failed_iff {results : List (Except Failure Value)} {ended : Ended Performed}
    (h : Concluded results ended) :
    (∃ stop, ended = .error stop) ↔ results ≠ [] ∧ ∀ r ∈ results, r.isOk = false := by
  cases h with
  | failed failures hany hall =>
      refine iff_of_true ⟨_, rfl⟩ ⟨?_, ?_⟩
      · rw [hall]
        exact fun hnil => hany (List.map_eq_nil_iff.1 hnil)
      · rw [hall]
        intro r hr
        obtain ⟨f, -, rfl⟩ := List.mem_map.1 hr
        rfl
  | succeeded successful failures hsome hvalues hcount =>
      refine iff_of_false (by rintro ⟨_, h⟩; cases h) ?_
      rintro ⟨hnil, hfailed⟩
      have hnone : successful = [] := by
        rw [hvalues, List.filterMap_eq_nil_iff]
        intro r hr
        cases r with
        | ok v => exact absurd (hfailed _ hr) (by simp)
        | error f => rfl
      exact hsome.elim (fun hsome => hsome hnone) hnil

namespace Surroundings

variable (s : Surroundings) (ctx : Context)

/-- **The order of ends is of no account.**  Let a step of calls in parallel be carried out with two
networks that give the same answers to the requests it sends, each in time, but with other delays,
and let the caller not give up meanwhile.  The step ends the same, and the counters of all providers
are the same.  In whatever order the calls end, each exactly once, every place holds in the end what
became of its call, and the world is the one that the step leaves.  The result is made of what
became of each call, one for each in their order: the step fails exactly if there are calls and all
of them failed. -/
theorem fan_out_order_free (network : Network) (w : World) (calls : List ApiCall)
    (halike : w.AnsweredAlike s.network network (s.sendAll ctx w calls).2)
    (hends : (s.perform ctx w (.parallel calls)).1 ≠ .error .interrupted)
    (hends' : ((s.withNetwork network).perform ctx w (.parallel calls)).1 ≠ .error .interrupted) :
    ((s.withNetwork network).perform ctx w (.parallel calls)).1
        = (s.perform ctx w (.parallel calls)).1 ∧
      ((s.withNetwork network).perform ctx w (.parallel calls)).2.providers.tally
        = (s.perform ctx w (.parallel calls)).2.providers.tally ∧
      (∀ order : List Nat, order.Perm (List.range calls.length) →
        (FanOut.finishAll (s.sendAll ctx w calls).1
            (.opening (s.sendAll ctx w calls).1 (s.sendAll ctx w calls).2) order).results
          = (s.branchResults ctx w calls).map some ∧
        ∃ ended, (s.perform ctx w (.parallel calls)).2
          = (FanOut.finishAll (s.sendAll ctx w calls).1
              (.opening (s.sendAll ctx w calls).1 (s.sendAll ctx w calls).2)
              order).world.at_ ended) ∧
      (s.branchResults ctx w calls).length = calls.length ∧
      Concluded (s.branchResults ctx w calls) (s.perform ctx w (.parallel calls)).1 ∧
      ((∃ stop, (s.perform ctx w (.parallel calls)).1 = .error stop) ↔
        calls ≠ [] ∧ ∀ r ∈ s.branchResults ctx w calls, r.isOk = false) := by
  have hlength := s.length_branchResults ctx w calls
  obtain ⟨ended, hperform⟩ := s.perform_parallel_of_ne_interrupted ctx hends
  obtain ⟨ended', hperform'⟩ :=
    (s.withNetwork network).perform_parallel_of_ne_interrupted ctx hends'
  obtain ⟨hworld, hslots⟩ := s.launchAll_alike network w _ halike
  have hresults :
      (s.withNetwork network).branchResults ctx w calls = s.branchResults ctx w calls := by
    rw [← map_result_sendAll, ← map_result_sendAll, ← Slot.map_result_timeless]
    exact (congrArg _ hslots).trans (Slot.map_result_timeless _)
  have hflights : (((s.withNetwork network).sendAll ctx w calls).1.filterMap Slot.flight?).map
        Flight.timeless
      = ((s.sendAll ctx w calls).1.filterMap Slot.flight?).map Flight.timeless := by
    rw [← Slot.filterMap_flight?_timeless, ← Slot.filterMap_flight?_timeless]
    exact congrArg _ hslots
  have hconcluded :
      Concluded (s.branchResults ctx w calls) (s.perform ctx w (.parallel calls)).1 := by
    rw [hperform]
    exact concluded_parallelResult _
  refine ⟨?result, ?counters, ?order, hlength, hconcluded, ?fails⟩
  case result => rw [hperform, hperform', hresults]
  case counters =>
    rw [hperform, hperform']
    exact World.tally_foldl_land hflights (congrArg (fun w => w.providers.tally) hworld)
  case order =>
    intro order horder
    have hslotsLength : (s.sendAll ctx w calls).1.length = calls.length := by
      rw [← hlength, ← map_result_sendAll, List.length_map]
    rw [← hslotsLength] at horder
    rw [FanOut.finishAll_of_perm _ horder]
    refine ⟨?_, ended, congrArg Prod.snd hperform⟩
    rw [← map_result_sendAll, List.map_map]
    rfl
  case fails =>
    rw [hconcluded.failed_iff, ← List.length_pos_iff, hlength, List.length_pos_iff]

/-- Three calls to one provider, the second to an endpoint that it does not have. -/
def threeCalls : List ApiCall :=
  [⟨.provider "alpha", "p", .null, .get, none, none⟩,
    ⟨.provider "alpha", "q", .null, .get, none, none⟩,
    ⟨.provider "alpha", "p", .null, .get, none, none⟩]

/-- A provider with one endpoint. -/
def alphaAlone : World :=
  ⟨0, ⟨[], [], ⟨[.new "alpha" ⟨"https://a.test", [("p", "/p")], none, none, .zero, 0.5, [], none⟩
    none], .standard⟩⟩, [], []⟩

/-- The later a request is sent, the later it is answered. -/
def answersInOrder : Surroundings :=
  ⟨fun before r => ⟨some (min before.length r.timeoutMs), .ok ⟨200, .null⟩⟩, .standard, none⟩

/-- The later a request is sent, the earlier it is answered. -/
def answersBackwards : Network :=
  fun before r => ⟨some (min (9 - before.length) r.timeoutMs), .ok ⟨200, .null⟩⟩

/-- The flights land in their order, or the other way round, and the step ends the same. -/
theorem fan_out_order_free_backwards :
    ((answersInOrder.sendAll .empty alphaAlone threeCalls).1.filterMap Slot.flight?).map
        (·.landsAt) = [0, 1] ∧
      (((answersInOrder.withNetwork answersBackwards).sendAll .empty alphaAlone
        threeCalls).1.filterMap Slot.flight?).map (·.landsAt) = [9, 8] ∧
      ((answersInOrder.withNetwork answersBackwards).perform .empty alphaAlone
          (.parallel threeCalls)).1
        = (answersInOrder.perform .empty alphaAlone (.parallel threeCalls)).1 := by
  refine ⟨by decide +kernel, by decide +kernel, ?_⟩
  refine (fan_out_order_free answersInOrder .empty answersBackwards alphaAlone threeCalls ?_
    (perform_parallel_ne_interrupted _ _ rfl _ _) (perform_parallel_ne_interrupted _ _ rfl _ _)).1
  exact fun before r _ _ _ =>
    ⟨rfl, ⟨_, rfl, Nat.min_le_right _ _⟩, ⟨_, rfl, Nat.min_le_right _ _⟩⟩

end Surroundings

end Planwright
