import Planwright.Proofs.Execution.Traffic
import Planwright.Proofs.Provider.Budget

set_option autoImplicit false

/-!
# Call accounting

What a provider's entry has counted is what has passed.  From its registration on, and as long as it
stays registered, the admissions of its window are the requests sent to it, one by one; it has
counted as called those that have landed, and as failed those that have landed with an error
(`calls_accounted`).  A request in flight has its place of the budget and is not counted yet, and
one that was given up never is.

The invariant (`Account`) speaks of every moment, whatever else is going on: executions interleave,
and providers and capabilities come and go.
-/

namespace Planwright

open Relation (ReflTransGen)

/-! ## Operations and providers -/

namespace Catalog

variable {k : Catalog} {p : String}

/-- What an operation may do to the providers. -/
inductive Changed (r : Providers) : Providers → Prop where
  | kept : Changed r r
  | joined {new : List ProviderEntry} (fresh : ∀ e ∈ new, ∃ id m owner, e = .new id m owner)
      (nodup : (new.map (·.id)).Nodup) (free : ∀ e ∈ new, e.id ∉ r.ids) :
      Changed r { r with entries := r.entries ++ new }
  | left (owner : String) : Changed r (r.removeOwnedBy owner)

theorem changed_step (k : Catalog) (op : Operation) :
    Changed k.providers (k.step op).providers := by
  unfold step
  cases hattempt : k.attempt op with
  | error f => exact .kept
  | ok k' =>
      cases op with
      | register id m =>
          obtain ⟨providers, hregister, rfl⟩ := Fallible.map_eq_ok.1 hattempt
          obtain ⟨hfree, rfl⟩ := Providers.register_eq_ok hregister
          refine .joined (fun e he => ?_) (List.nodup_singleton _) fun e he => ?_ <;>
            rw [List.mem_singleton.1 he]
          · exact ⟨id, m, none, rfl⟩
          · exact hfree
      | install c built =>
          obtain ⟨triggers, providers, -, -, hregister, rfl⟩ := install_eq_ok hattempt
          obtain ⟨hnodup, hfree, rfl⟩ := Providers.registerAll_eq_ok hregister
          refine .joined (fun e he => ?_) ?_ fun e he => ?_
          · obtain ⟨q, -, rfl⟩ := List.mem_map.1 he
            exact ⟨q.1, q.2, some c.name, rfl⟩
          · rwa [Providers.map_id_brought]
          · refine hfree e.id ?_
            rw [← Providers.map_id_brought c.name]
            exact List.mem_map_of_mem he
      | uninstall name =>
          obtain ⟨record, -, rfl⟩ := uninstall_eq_ok hattempt
          exact .left name

theorem Changed.nodup {r r' : Providers} (h : Changed r r') (hunique : r.ids.Nodup) :
    r'.ids.Nodup := by
  cases h with
  | kept => exact hunique
  | joined fresh nodup free =>
      rw [Providers.ids, List.map_append, List.nodup_append]
      refine ⟨hunique, nodup, ?_⟩
      rintro id hid _ hnew rfl
      obtain ⟨e, he, heq⟩ := List.mem_map.1 hnew
      exact free e he (heq ▸ hid)
  | left owner => exact (List.filter_sublist.map _).nodup hunique

/-- A provider that stays registered keeps its entry. -/
theorem Changed.find? {r r' : Providers} (h : Changed r r') (hunique : r.ids.Nodup)
    {e : ProviderEntry} (hfound : r.find? p = some e) (hstays : p ∈ r'.ids) :
    r'.find? p = some e := by
  have hunique' := h.nodup hunique
  suffices hmem : e ∈ r'.entries by
    rw [← Providers.id_of_find? hfound]
    exact Providers.find?_of_mem hunique' hmem
  have he := List.mem_of_find?_eq_some hfound
  cases h with
  | kept => exact he
  | joined fresh nodup free => exact List.mem_append_left _ he
  | left owner =>
      -- something stays under the name; names are unique, so it is the entry itself
      obtain ⟨d, hd, hname⟩ := List.mem_map.1 hstays
      obtain rfl : d = e := List.inj_on_of_nodup_map hunique (List.mem_filter.1 hd).1 he
        (hname.trans (Providers.id_of_find? hfound).symm)
      exact hd

/-- A provider that has just been registered has an entry without calls. -/
theorem Changed.exists_new {r r' : Providers} (h : Changed r r') (hnew : p ∉ r.ids)
    (hregistered : p ∈ r'.ids) : ∃ m owner, r'.find? p = some (.new p m owner) := by
  obtain ⟨e, hfound⟩ := Providers.mem_ids_iff.1 hregistered
  have he := List.mem_of_find?_eq_some hfound
  have hid := Providers.id_of_find? hfound
  have hbefore : e ∉ r.entries := fun hmem => hnew (hid ▸ Providers.mem_ids_of_mem hmem)
  cases h with
  | kept => exact absurd he hbefore
  | joined fresh nodup free =>
      rcases List.mem_append.1 he with he | he
      · exact absurd he hbefore
      · obtain ⟨id, m, owner, rfl⟩ := fresh e he
        obtain rfl : id = p := hid
        exact ⟨m, owner, hfound⟩
  | left owner => exact absurd (List.mem_filter.1 he).1 hbefore

end Catalog

/-! ## Counting -/

namespace Passage

/-- Whether its answer, or the lack of one, was recorded. -/
def isLanded (q : Passage) : Bool := q.fate == .landed

/-- Whether it was recorded as an error. -/
def isFailed (q : Passage) : Bool := q.isLanded && !q.flight.answer.isOk

/-- The passages to a provider. -/
def addressed (p : String) (passages : List Passage) : List Passage :=
  passages.filter fun q => q.flight.provider == p

variable {p : String} {q : Passage}

theorem addressed_append (p : String) (before behind : List Passage) :
    addressed p (before ++ behind) = addressed p before ++ addressed p behind :=
  List.filter_append ..

theorem addressed_cons_of_eq (h : q.flight.provider = p) (behind : List Passage) :
    addressed p (q :: behind) = q :: addressed p behind :=
  List.filter_cons_of_pos (by simp [h])

theorem addressed_cons_of_ne (h : q.flight.provider ≠ p) (behind : List Passage) :
    addressed p (q :: behind) = addressed p behind :=
  List.filter_cons_of_neg (by simp [h])

/-- What is read off each passage, but not off its fate, stays the same when a fate changes. -/
theorem map_addressed {α : Type} (f : Passage → α) (hf : ∀ q fate, f (fated q fate) = f q)
    (p : String) (before : List Passage) (q : Passage) (fate : Fate) (behind : List Passage) :
    (addressed p (before ++ q.fated fate :: behind)).map f
      = (addressed p (before ++ q :: behind)).map f := by
  rw [addressed_append, addressed_append, List.map_append, List.map_append]
  by_cases hq : q.flight.provider = p
  · rw [addressed_cons_of_eq hq, addressed_cons_of_eq (q := q.fated fate) hq, List.map_cons,
      List.map_cons, hf]
  · rw [addressed_cons_of_ne hq, addressed_cons_of_ne (q := q.fated fate) hq]

/-- When a fate changes, this one passage is all that is counted anew. -/
theorem countP_addressed (test : Passage → Bool) (p : String) (before : List Passage) {q : Passage}
    (hq : test q = false) (fate : Fate) (behind : List Passage) :
    (addressed p (before ++ q.fated fate :: behind)).countP test
      = (addressed p (before ++ q :: behind)).countP test
        + if q.flight.provider = p ∧ test (q.fated fate) = true then 1 else 0 := by
  rw [addressed_append, addressed_append, List.countP_append, List.countP_append]
  by_cases hprovider : q.flight.provider = p
  · rw [addressed_cons_of_eq hprovider, addressed_cons_of_eq (q := q.fated fate) hprovider,
      List.countP_cons, List.countP_cons, hq]
    simp [hprovider, Nat.add_assoc]
  · rw [addressed_cons_of_ne hprovider, addressed_cons_of_ne (q := q.fated fate) hprovider]
    simp [hprovider]

end Passage

/-! ## The invariant -/

namespace Traffic

/-- What every traffic keeps: names are unique, and passages go to registered providers. -/
structure Orderly (t : Traffic) : Prop where
  unique : t.world.providers.ids.Nodup
  registered : ∀ q ∈ t.passages, q.flight.provider ∈ t.world.providers.ids

/-- A provider was just registered. -/
structure Fresh (p : String) (t : Traffic) : Prop where
  orderly : t.Orderly
  entry : ∃ m owner, t.world.providers.find? p = some (.new p m owner)
  unsent : Passage.addressed p t.passages = []

/-- The entry of a provider has counted what has passed since some moment. -/
structure Account (p : String) (start t : Traffic) (e : ProviderEntry) : Prop where
  orderly : t.Orderly
  found : t.world.providers.find? p = some e
  /-- the admissions of the window are the passages, one by one -/
  window : e.window = e.manifest.rateLimit.map fun l =>
    (RequestWindow.new l.requests l.windowMs).recordAll
      ((Passage.addressed p t.passages).map (·.admittedAt))
  /-- and so are the requests sent -/
  sent : t.world.sent.filter (·.provider == p)
    = start.world.sent.filter (·.provider == p)
      ++ (Passage.addressed p t.passages).map (·.request)
  calls : e.callCount = (Passage.addressed p t.passages).countP Passage.isLanded
  errors : e.errorCount = (Passage.addressed p t.passages).countP Passage.isFailed

/-- What an entry has counted at one moment it has counted at a later one. -/
structure Grown (p : String) (t t' : Traffic) (e e' : ProviderEntry) : Prop where
  calls : e.callCount ≤ e'.callCount
  errors : e.errorCount ≤ e'.errorCount
  admissions : (Passage.addressed p t.passages).length ≤ (Passage.addressed p t'.passages).length

end Traffic

/-! ## One move -/

theorem Request.provider_of_build {provider : String} {manifest : Manifest} {spec : CallSpec}
    {timeout : Nat} {request : Request} (h : build provider manifest spec timeout = .ok request) :
    request.provider = provider := by
  unfold build at h
  split at h
  · cases h
  · split at h
    · cases h
    · rw [← Except.ok.inj h]

namespace World

variable {w w' : World} {id : String} {e : ProviderEntry}

/-- Where names are unique, a budget without room is left as it is. -/
theorem tryAdmit_of_full (hunique : w.providers.ids.Nodup) (hfull : (w.tryAdmit id).1 = false) :
    (w.tryAdmit id).2 = w := by
  cases hfound : w.providers.find? id with
  | none => rw [tryAdmit, hfound]
  | some e =>
      rw [tryAdmit_of_find? hfound] at hfull ⊢
      have hsame : (e.tryAdmit w.now).2 = e := by
        unfold ProviderEntry.tryAdmit at hfull ⊢
        split at hfull
        · cases hfull
        · next hroom => rw [if_neg hroom]
      rw [hsame]
      exact congrArg w.withProviders (Providers.adjust_self hunique hfound)

theorem tryAdmit_of_room (hfound : w.providers.find? id = some e)
    (hroom : (w.tryAdmit id).1 = true) :
    (w.tryAdmit id).2 = w.adjust id fun _ => e.reserve w.now := by
  rw [tryAdmit_of_find? hfound] at hroom ⊢
  have hreserved : (e.tryAdmit w.now).2 = e.reserve w.now := by
    unfold ProviderEntry.tryAdmit at hroom ⊢
    split at hroom
    · next hadmits => rw [if_pos hadmits]
    · cases hroom
  rw [hreserved]

/-- Where names are unique, a call that is refused leaves the world as it was. -/
theorem launch_eq_error (hunique : w.providers.ids.Nodup) {network : Network} {spec : CallSpec}
    {timeout : Nat} {f : Failure} (h : w.launch network e spec timeout = (.error f, w')) :
    w' = w := by
  have hlaunched := w.launched network e spec timeout
  rw [h] at hlaunched
  cases hlaunched with
  | fault _ => rfl
  | full hfull => exact tryAdmit_of_full hunique hfull

/-- A call that is sent takes a place of the budget of its provider. -/
theorem launch_eq_ok {entry : ProviderEntry} (hfound : w.providers.find? e.id = some entry)
    {network : Network} {spec : CallSpec} {timeout : Nat} {flight : Flight} {request : Request}
    (h : w.launch network e spec timeout = (.ok flight, w'))
    (hsent : w'.sent = w.sent ++ [request]) :
    request.provider = e.id ∧ flight.provider = e.id ∧
      w' = (w.adjust e.id fun _ => entry.reserve w.now).send request := by
  have hlaunched := w.launched network e spec timeout
  rw [h] at hlaunched
  cases hlaunched with
  | @sent built hbuilt hroom _ hprovider =>
      have hrequest : built = request := by
        rw [send, sent_tryAdmit] at hsent
        exact List.singleton_inj.1 (List.append_cancel_left hsent)
      rw [← hrequest, tryAdmit_of_room hfound hroom]
      exact ⟨Request.provider_of_build hbuilt, hprovider, rfl⟩

end World

namespace Traffic

variable {p : String} {start t t' : Traffic} {e : ProviderEntry}

theorem Move.ids_eq (h : Move t t') : t'.world.providers.ids = t.world.providers.ids := by
  cases h with
  | @refuse _ network e spec timeout f w _ launched =>
      have hids := t.world.ids_launch network e spec timeout
      rw [launched] at hids
      exact hids
  | @send _ network e spec timeout flight w request _ launched _ =>
      have hids := t.world.ids_launch network e spec timeout
      rw [launched] at hids
      exact hids
  | land w before behind flying => exact World.ids_land w _
  | lose w before behind flying => rfl
  | invoke action params => rfl
  | setClock now => rfl

/-- Where every member of a list has a property, and one of them is replaced by another that has it,
every member has it again. -/
theorem forall_mem_replace {α : Type} {P : α → Prop} {before behind : List α} {x y : α}
    (h : ∀ z ∈ before ++ x :: behind, P z) (hy : P x → P y) : ∀ z ∈ before ++ y :: behind, P z := by
  rw [List.forall_mem_append, List.forall_mem_cons] at h ⊢
  exact ⟨h.1, hy h.2.1, h.2.2⟩

theorem Orderly.move (h : Move t t') (ht : t.Orderly) : t'.Orderly := by
  have hids := h.ids_eq
  refine ⟨hids ▸ ht.unique, ?_⟩
  rw [hids]
  cases h with
  | refuse _ _ => exact ht.registered
  | @send _ network e spec timeout flight w request registered launched sent =>
      obtain ⟨entry, hfound⟩ := Providers.mem_ids_iff.1 registered
      obtain ⟨-, hprovider, -⟩ := World.launch_eq_ok hfound launched sent
      refine List.forall_mem_append.2 ⟨ht.registered, List.forall_mem_singleton.2 ?_⟩
      exact hprovider ▸ registered
  | land w before behind flying => exact forall_mem_replace ht.registered id
  | lose w before behind flying => exact forall_mem_replace ht.registered id
  | invoke action params => exact ht.registered
  | setClock now => exact ht.registered

theorem Orderly.event (h : Event t t') (ht : t.Orderly) : t'.Orderly := by
  cases h with
  | move hmove => exact ht.move hmove
  | operate op =>
      refine ⟨(Catalog.changed_step _ op).nodup ht.unique, fun q hq => ?_⟩
      exact Providers.contains_iff.1 (List.mem_filter.1 hq).2

theorem orderly_opening (config : SelectorConfig) (now : Nat) : (opening config now).Orderly where
  unique := List.nodup_nil
  registered := List.forall_mem_nil _

theorem orderly_of_history {config : SelectorConfig} {now : Nat}
    (h : ReflTransGen Event (opening config now) t) : t.Orderly := by
  induction h with
  | refl => exact orderly_opening config now
  | tail _ hlast ih => exact ih.event hlast

/-- An operation that registers a provider registers it anew. -/
theorem fresh_operate (ht : t.Orderly) (op : Operation) (hnew : p ∉ t.world.providers.ids)
    (hregistered : p ∈ (t.operate op).world.providers.ids) : (t.operate op).Fresh p where
  orderly := ht.event (.operate t op)
  entry := (Catalog.changed_step t.world.catalog op).exists_new hnew hregistered
  unsent := by
    refine List.filter_eq_nil_iff.2 fun q hq hprovider => hnew ?_
    have hq' := ht.registered q (List.mem_filter.1 hq).1
    rwa [eq_of_beq hprovider] at hq'

theorem Fresh.account (h : t.Fresh p) : ∃ e, Account p t t e := by
  obtain ⟨m, owner, hfound⟩ := h.entry
  refine ⟨.new p m owner, h.orderly, hfound, ?_, ?_, ?_, ?_⟩ <;> rw [h.unsent]
  · rfl
  · rw [List.map_nil, List.append_nil]
  · rfl
  · rfl

/-! ### Moves and the account -/

theorem Grown.refl (p : String) (t : Traffic) (e : ProviderEntry) : Grown p t t e e :=
  ⟨Nat.le_refl _, Nat.le_refl _, Nat.le_refl _⟩

theorem Grown.trans {t'' : Traffic} {e' e'' : ProviderEntry} (h : Grown p t t' e e')
    (h' : Grown p t' t'' e' e'') : Grown p t t'' e e'' :=
  ⟨h.calls.trans h'.calls, h.errors.trans h'.errors, h.admissions.trans h'.admissions⟩

/-- What leaves an entry and its requests leaves its account. -/
theorem Account.unmoved (h : Account p start t e) (ht' : t'.Orderly)
    (hfound : t'.world.providers.find? p = t.world.providers.find? p)
    (hsent : t'.world.sent.filter (·.provider == p) = t.world.sent.filter (·.provider == p))
    (hpassages : Passage.addressed p t'.passages = Passage.addressed p t.passages) :
    Account p start t' e ∧ Grown p t t' e e := by
  refine ⟨⟨ht', hfound.trans h.found, ?_, ?_, ?_, ?_⟩, Nat.le_refl _, Nat.le_refl _, ?_⟩ <;>
    rw [hpassages]
  · exact h.window
  · exact hsent.trans h.sent
  · exact h.calls
  · exact h.errors

variable {network : Network} {d : ProviderEntry} {spec : CallSpec} {timeout : Nat} {flight : Flight}
  {w : World} {request : Request}

/-- A request that is sent is one more admission. -/
theorem Account.send (h : Account p start t e) (hprovider : d.id = p)
    (hlaunched : t.world.launch network d spec timeout = (.ok flight, w))
    (hsent : w.sent = t.world.sent ++ [request])
    (ht' : Orderly ⟨w, t.passages ++ [⟨request, t.world.now, flight, .inFlight⟩]⟩) :
    Account p start ⟨w, t.passages ++ [⟨request, t.world.now, flight, .inFlight⟩]⟩
        (e.reserve t.world.now) ∧
      Grown p t ⟨w, t.passages ++ [⟨request, t.world.now, flight, .inFlight⟩]⟩ e
        (e.reserve t.world.now) := by
  subst hprovider
  obtain ⟨hrequest, hflight, hworld⟩ := World.launch_eq_ok h.found hlaunched hsent
  have hnew : Passage.addressed d.id (t.passages ++ [⟨request, t.world.now, flight, .inFlight⟩])
      = Passage.addressed d.id t.passages ++ [⟨request, t.world.now, flight, .inFlight⟩] := by
    rw [Passage.addressed_append, Passage.addressed_cons_of_eq hflight]
    rfl
  refine ⟨⟨ht', ?found, ?window, ?sent, ?calls, ?errors⟩, Nat.le_refl _, Nat.le_refl _, ?more⟩
  case found =>
    have hid := Providers.id_of_find? h.found
    rw [hworld]
    exact Providers.find?_adjust_self (fun _ _ => hid) h.found
  case window =>
    have hrecord : (e.reserve t.world.now).window = e.window.map (·.record t.world.now) := rfl
    rw [hnew, hrecord, h.window, Option.map_map, List.map_append]
    refine congrArg (Option.map · _) (funext fun l => ?_)
    exact (RequestWindow.recordAll_concat _ _ _).symm
  case sent =>
    rw [hnew, hsent, List.filter_append, h.sent, List.map_append, List.append_assoc]
    congr 2
    exact List.filter_cons_of_pos (by simp [hrequest])
  case calls =>
    rw [hnew, List.countP_append]
    exact h.calls
  case errors =>
    rw [hnew, List.countP_append]
    exact h.errors
  case more =>
    rw [hnew, List.length_append]
    exact Nat.le_add_right _ _

/-- A request that is sent to another provider leaves the account. -/
theorem Account.send_of_ne (h : Account p start t e) (hprovider : d.id ≠ p)
    (hregistered : d.id ∈ t.world.providers.ids)
    (hlaunched : t.world.launch network d spec timeout = (.ok flight, w))
    (hsent : w.sent = t.world.sent ++ [request])
    (ht' : Orderly ⟨w, t.passages ++ [⟨request, t.world.now, flight, .inFlight⟩]⟩) :
    Account p start ⟨w, t.passages ++ [⟨request, t.world.now, flight, .inFlight⟩]⟩ e ∧
      Grown p t ⟨w, t.passages ++ [⟨request, t.world.now, flight, .inFlight⟩]⟩ e e := by
  obtain ⟨entry, hfound⟩ := Providers.mem_ids_iff.1 hregistered
  obtain ⟨hrequest, hflight, hworld⟩ := World.launch_eq_ok hfound hlaunched hsent
  refine h.unmoved ht' ?found ?sent ?passages
  case found =>
    have hid := Providers.id_of_find? hfound
    rw [hworld]
    exact Providers.find?_adjust_of_ne (fun _ _ => hid) hprovider.symm
  case sent =>
    rw [hsent, List.filter_append, List.filter_cons_of_neg (by simpa [hrequest] using hprovider)]
    exact List.append_nil _
  case passages =>
    rw [Passage.addressed_append, Passage.addressed_cons_of_ne (hflight ▸ hprovider)]
    exact List.append_nil _

variable {before behind : List Passage} {q : Passage}

/-- When a request in flight meets its fate, its place of the budget stays taken.  The account is
kept if the entry has counted what this one passage adds. -/
theorem Account.fated (h : Account p start ⟨w, before ++ q :: behind⟩ e)
    (hflying : q.fate = .inFlight) {fate : Fate} {w' : World} {e' : ProviderEntry}
    (ht' : Orderly ⟨w', before ++ q.fated fate :: behind⟩)
    (hfound : w'.providers.find? p = some e') (hsent : w'.sent = w.sent)
    (hwindow : e'.window = e.window) (hmanifest : e'.manifest = e.manifest)
    (hcalls : e'.callCount
      = e.callCount + if q.flight.provider = p ∧ (q.fated fate).isLanded = true then 1 else 0)
    (herrors : e'.errorCount
      = e.errorCount + if q.flight.provider = p ∧ (q.fated fate).isFailed = true then 1 else 0) :
    Account p start ⟨w', before ++ q.fated fate :: behind⟩ e' ∧
      Grown p ⟨w, before ++ q :: behind⟩ ⟨w', before ++ q.fated fate :: behind⟩ e e' := by
  have hlanded : q.isLanded = false := by simp [Passage.isLanded, hflying]
  have hfailed : q.isFailed = false := by simp [Passage.isFailed, hlanded]
  have hinstants := Passage.map_addressed (·.admittedAt) (fun _ _ => rfl) p before q fate behind
  have hrequests := Passage.map_addressed (·.request) (fun _ _ => rfl) p before q fate behind
  refine ⟨⟨ht', hfound, ?window, ?sent, ?calls, ?errors⟩, hcalls ▸ Nat.le_add_right _ _,
    herrors ▸ Nat.le_add_right _ _, ?same⟩
  case window =>
    rw [hinstants, hwindow, hmanifest]
    exact h.window
  case sent =>
    rw [hrequests, hsent]
    exact h.sent
  case calls =>
    rw [Passage.countP_addressed Passage.isLanded p before hlanded fate behind, hcalls, h.calls]
  case errors =>
    rw [Passage.countP_addressed Passage.isFailed p before hfailed fate behind, herrors, h.errors]
  case same =>
    have hlength := congrArg List.length hrequests
    rw [List.length_map, List.length_map] at hlength
    exact hlength.ge

/-- A request that lands is counted with its provider, as failed if its answer is an error. -/
theorem Account.land (h : Account p start ⟨w, before ++ q :: behind⟩ e)
    (hprovider : q.flight.provider = p) (hflying : q.fate = .inFlight)
    (ht' : Orderly ⟨w.land q.flight, before ++ q.fated .landed :: behind⟩) :
    Account p start ⟨w.land q.flight, before ++ q.fated .landed :: behind⟩
        (e.recordCall q.flight.landsAt q.flight.answer.isOk) ∧
      Grown p ⟨w, before ++ q :: behind⟩
        ⟨w.land q.flight, before ++ q.fated .landed :: behind⟩ e
        (e.recordCall q.flight.landsAt q.flight.answer.isOk) := by
  have hlanded : (q.fated .landed).isLanded = true := rfl
  have hfailed : (q.fated .landed).isFailed = !q.flight.answer.isOk := rfl
  refine h.fated hflying ht' ?found rfl rfl rfl ?calls ?errors
  case found =>
    have hfound := h.found
    rw [← hprovider] at hfound ⊢
    exact Providers.find?_adjust_self (fun _ hd => hd) hfound
  case calls =>
    rw [if_pos ⟨hprovider, hlanded⟩]
    rfl
  case errors =>
    rw [hfailed]
    cases hanswer : q.flight.answer.isOk <;> simp [ProviderEntry.recordCall, hprovider]

/-- A request that lands with another provider leaves the account. -/
theorem Account.land_of_ne (h : Account p start ⟨w, before ++ q :: behind⟩ e)
    (hprovider : q.flight.provider ≠ p)
    (ht' : Orderly ⟨w.land q.flight, before ++ q.fated .landed :: behind⟩) :
    Account p start ⟨w.land q.flight, before ++ q.fated .landed :: behind⟩ e ∧
      Grown p ⟨w, before ++ q :: behind⟩
        ⟨w.land q.flight, before ++ q.fated .landed :: behind⟩ e e := by
  refine h.unmoved ht' (Providers.find?_adjust_of_ne (fun _ hd => hd) hprovider.symm) rfl ?passages
  case passages =>
    rw [Passage.addressed_append, Passage.addressed_append, Passage.addressed_cons_of_ne hprovider,
      Passage.addressed_cons_of_ne (q := q.fated .landed) hprovider]

/-- A request that is given up is counted nowhere. -/
theorem Account.lose (h : Account p start ⟨w, before ++ q :: behind⟩ e)
    (hflying : q.fate = .inFlight) (ht' : Orderly ⟨w, before ++ q.fated .lost :: behind⟩) :
    Account p start ⟨w, before ++ q.fated .lost :: behind⟩ e ∧
      Grown p ⟨w, before ++ q :: behind⟩ ⟨w, before ++ q.fated .lost :: behind⟩ e e := by
  have hlanded : ¬ (q.flight.provider = p ∧ (q.fated .lost).isLanded = true) :=
    fun hcounted => Bool.false_ne_true hcounted.2
  have hfailed : ¬ (q.flight.provider = p ∧ (q.fated .lost).isFailed = true) :=
    fun hcounted => Bool.false_ne_true hcounted.2
  refine h.fated hflying ht' h.found rfl rfl rfl ?_ ?_
  · rw [if_neg hlanded, Nat.add_zero]
  · rw [if_neg hfailed, Nat.add_zero]

/-- An operation that leaves the provider registered leaves its account. -/
theorem Account.operate (h : Account p start t e) (op : Operation)
    (hstays : p ∈ (t.operate op).world.providers.ids) :
    Account p start (t.operate op) e ∧ Grown p t (t.operate op) e e := by
  have hchanged := Catalog.changed_step t.world.catalog op
  refine h.unmoved (h.orderly.event (.operate t op)) ?found rfl ?passages
  case found => exact (hchanged.find? h.orderly.unique h.found hstays).trans h.found.symm
  case passages =>
    unfold Passage.addressed Traffic.operate
    rw [List.filter_filter]
    refine List.filter_congr fun q _ => ?_
    cases hq : q.flight.provider == p with
    | false => rfl
    | true =>
        rw [eq_of_beq hq, Bool.true_and]
        exact Providers.contains_iff.2 hstays

/-- Whatever happens, the entry of a provider that stays registered has counted what has passed. -/
theorem Account.event (h : Account p start t e) (hevent : Event t t')
    (hstays : p ∈ t'.world.providers.ids) :
    ∃ e', Account p start t' e' ∧ Grown p t t' e e' := by
  have ht' := h.orderly.event hevent
  cases hevent with
  | operate op => exact ⟨e, h.operate op hstays⟩
  | move hmove =>
      cases hmove with
      | refuse _ _ launched =>
          rw [World.launch_eq_error h.orderly.unique launched]
          exact ⟨e, h, .refl p t e⟩
      | @send _ network d spec timeout flight w request registered launched sent =>
          by_cases hprovider : d.id = p
          · exact ⟨_, h.send hprovider launched sent ht'⟩
          · exact ⟨e, h.send_of_ne hprovider registered launched sent ht'⟩
      | @land w before q behind flying =>
          by_cases hprovider : q.flight.provider = p
          · exact ⟨_, h.land hprovider flying ht'⟩
          · exact ⟨e, h.land_of_ne hprovider ht'⟩
      | lose w before behind flying => exact ⟨e, h.lose flying ht'⟩
      | invoke action params => exact ⟨e, h.unmoved ht' rfl rfl rfl⟩
      | setClock now => exact ⟨e, h.unmoved ht' rfl rfl rfl⟩

theorem Account.staying (h : Account p start t e) (hstaying : Staying p t t') :
    ∃ e', Account p start t' e' ∧ Grown p t t' e e' := by
  induction hstaying with
  | refl => exact ⟨e, h, .refl p t e⟩
  | tail _ hlast ih =>
      obtain ⟨d, hd, hgrown⟩ := ih
      obtain ⟨e', he', hmore⟩ := hd.event hlast.1 hlast.2
      exact ⟨e', he', hgrown.trans hmore⟩

theorem Account.errors_le (h : Account p start t e) : e.errorCount ≤ e.callCount := by
  rw [h.errors, h.calls]
  exact List.countP_mono_left fun q _ hq => (Bool.and_eq_true_iff.1 hq).1

/-- A path of calls leaves every provider registered. -/
theorem staying_of_moves (h : Moves t t') (hp : p ∈ t.world.providers.ids) : Staying p t t' := by
  have hids : ∀ {u : Traffic}, Moves t u → u.world.providers.ids = t.world.providers.ids := by
    intro u hu
    induction hu with
    | refl => rfl
    | tail _ hlast ih => exact hlast.ids_eq.trans ih
  induction h with
  | refl => exact .refl
  | @tail u v hmoves hlast ih =>
      refine ih.tail ⟨.move hlast, ?_⟩
      rw [hids (hmoves.tail hlast)]
      exact hp

/-! ## The account -/

/-- Where names are unique, a call that is refused is answered with a failure at once, and leaves
the world as it was. -/
theorem dispatch_of_refuses (s : Surroundings) {w : World} (hunique : w.providers.ids.Nodup)
    {d : ProviderEntry} {spec : CallSpec} (h : w.Refuses d spec s.config.callTimeoutMs) :
    ∃ f, s.dispatch w d spec = (.error (.failed f), w) := by
  have hlaunched := w.launched s.network d spec s.config.callTimeoutMs
  generalize hlaunch : w.launch s.network d spec s.config.callTimeoutMs = result at hlaunched
  cases hlaunched with
  | @fault f _ =>
      refine ⟨f.failure, ?_⟩
      rw [Surroundings.dispatch, hlaunch]
  | @full hfull f =>
      refine ⟨f, ?_⟩
      rw [Surroundings.dispatch, hlaunch, World.tryAdmit_of_full hunique hfull]
  | sent built room _ =>
      rcases h with ⟨f, hfault⟩ | hfull
      · rw [built] at hfault
        cases hfault
      · rw [room] at hfull
        cases hfull

/-- **Call accounting.**  From the registration of a provider on, and as long as it stays
registered, its entry has counted what has passed, whatever else happens meanwhile; it has never
counted more errors than calls, and what it has counted only grows.

A call that is refused changes nothing.  One that is sent adds a passage, which lands with the
answer that the caller gets unless the caller gives up.  An execution is a run of such moves, at
whose end nothing that it has sent is in flight; and every operation that registers a provider
begins its account. -/
theorem calls_accounted {start mid now : Traffic} {p : String} (hstart : start.Fresh p)
    (hmid : Staying p start mid) (hnow : Staying p mid now) :
    (∃ e e', Account p start mid e ∧ Account p start now e' ∧ Grown p mid now e e' ∧
      e.errorCount ≤ e.callCount) ∧
    (∀ (s : Surroundings) (d : ProviderEntry) (spec : CallSpec),
      (mid.world.Refuses d spec s.config.callTimeoutMs →
        ∃ f, s.dispatch mid.world d spec = (.error (.failed f), mid.world)) ∧
      (d.id ∈ mid.world.providers.ids →
        s.Dispatched mid.world d spec (s.dispatch mid.world d spec))) ∧
    (∀ (s : Surroundings) (r : Recipe), ∃ new, (∀ q ∈ new, q.fate ≠ .inFlight) ∧
      Staying p mid ⟨(s.execute mid.world r).2, mid.passages ++ new⟩) ∧
    ∀ (config : SelectorConfig) (clock : Nat) (before : Traffic) (op : Operation),
      ReflTransGen Event (opening config clock) before → p ∉ before.world.providers.ids →
        p ∈ (before.operate op).world.providers.ids → (before.operate op).Fresh p := by
  obtain ⟨_, hfresh⟩ := hstart.account
  obtain ⟨e, he, -⟩ := hfresh.staying hmid
  obtain ⟨e', he', hgrown⟩ := he.staying hnow
  refine ⟨⟨e, e', he, he', hgrown, he.errors_le⟩, fun s d spec => ⟨?refused, ?made⟩, ?executed,
    ?registered⟩
  case refused => exact dispatch_of_refuses s he.orderly.unique
  case made => exact fun hregistered => s.dispatched hregistered spec
  case executed =>
    intro s r
    obtain ⟨new, hnew, hmoves⟩ := (s.passes_execute mid.world r).moves
    have hregistered := Providers.mem_ids_iff.2 ⟨e, he.found⟩
    exact ⟨new, hnew, staying_of_moves (hmoves mid.passages) hregistered⟩
  case registered =>
    intro config clock before op hbefore hnew hregistered
    exact fresh_operate (orderly_of_history hbefore) op hnew hregistered

/-- A provider with a budget that has just been registered. -/
def oneProvider : Traffic :=
  ⟨⟨0, ⟨[], [], ⟨[.new "alpha" ⟨"https://a.test", [("p", "/p")], none, some ⟨2, 10⟩, .zero, 0.5, [],
    none⟩ none], .standard⟩⟩, [], []⟩, []⟩

/-- A call that is never answered is counted only when its time has run out, and then as failed. -/
theorem calls_accounted_timeout : ∃ (mid now : Traffic) (e e' : ProviderEntry),
    oneProvider.Fresh "alpha" ∧ Staying "alpha" oneProvider mid ∧ Staying "alpha" mid now ∧
      Account "alpha" oneProvider mid e ∧ Account "alpha" oneProvider now e' ∧
        e.callCount = 0 ∧ e'.callCount = 1 ∧ e'.errorCount = 1 := by
  let alpha : ProviderEntry := .new "alpha" ⟨"https://a.test", [("p", "/p")], none, some ⟨2, 10⟩,
    .zero, 0.5, [], none⟩ none
  have hfresh : oneProvider.Fresh "alpha" :=
    ⟨⟨List.nodup_singleton _, List.forall_mem_nil _⟩, ⟨_, none, rfl⟩, rfl⟩
  have hregistered : "alpha" ∈ oneProvider.world.providers.ids := List.mem_singleton.2 rfl
  have hparts : Request.pathParts "/p".toList = [.plain "/p".toList] := by
    rw [Request.pathParts]
    rfl
  obtain ⟨request, hbuilt⟩ : ∃ request,
      Request.build alpha.id alpha.manifest ⟨"p", [], .get, none⟩ 5 = .ok request := by
    have hendpoint : alpha.manifest.endpoints.get? "p" = some "/p" := rfl
    simp only [Request.build, hendpoint, hparts]
    exact ⟨_, rfl⟩
  obtain ⟨w, flight, hlaunch, hsent, hprovider, hanswer⟩ : ∃ w flight,
      oneProvider.world.launch (fun _ _ => ⟨none, .ok ⟨200, .null⟩⟩) alpha ⟨"p", [], .get, none⟩ 5
        = (.ok flight, w) ∧ w.sent = [] ++ [request] ∧ flight.provider = "alpha" ∧
          flight.answer.isOk = false := by
    have htimeout : alpha.manifest.timeoutMs.getD 5 = 5 := rfl
    simp only [World.launch, htimeout, hbuilt]
    exact ⟨_, _, rfl, rfl, rfl, rfl⟩
  have hsend := Move.send oneProvider hregistered hlaunch hsent
  have hland := Move.land w [] (q := ⟨request, 0, flight, .inFlight⟩) [] rfl
  have hmid := staying_of_moves (.single hsend) hregistered
  have hnow := staying_of_moves (.single hland) (hsend.ids_eq ▸ hregistered)
  obtain ⟨⟨e, e', he, he', -, -⟩, -⟩ := calls_accounted hfresh hmid hnow
  refine ⟨_, _, e, e', hfresh, hmid, hnow, he, he', ?_, ?_, ?_⟩
  · rw [he.calls]
    exact congrArg _ (Passage.addressed_cons_of_eq hprovider [])
  · rw [he'.calls]
    exact congrArg _ (Passage.addressed_cons_of_eq hprovider [])
  · rw [he'.errors]
    refine (congrArg _ (Passage.addressed_cons_of_eq hprovider [])).trans ?_
    simp [Passage.isFailed, Passage.isLanded, Passage.addressed, Passage.fated, hanswer]

end Traffic

end Planwright
