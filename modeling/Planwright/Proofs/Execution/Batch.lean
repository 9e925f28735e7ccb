import Mathlib.Data.List.Forall2
import Planwright.Proofs.Execution.Addressing
import Planwright.Proofs.Execution.FanOut

set_option autoImplicit false

/-!
# A batch, call by call

A batch makes its calls one after the other.  What becomes of a call is what would become of it by
itself, in a step with this call only and without fallbacks, from the world that the calls before it
have left; that some of them failed does not keep it from being made (`batch_one_by_one`).  The
entries of the result stand in the order of the calls, each tagged with what became of its call.
-/

namespace Planwright

theorem Ended.of_ne_interrupted {α : Type} (x : Except Failure α) :
    Ended.of x ≠ .error .interrupted := by
  cases x <;> (intro h; cases h)

namespace Surroundings

variable (s : Surroundings) (ctx : Context)

/-! ## Calls by themselves -/

/-- What becomes of a step with one call and no fallbacks, and the world that it leaves, unless the
caller gives up meanwhile. -/
inductive Alone (w : World) (c : ApiCall) : Except Failure Value → World → Prop where
  | answered {v : Value} {shown : Option String} {status : StepStatus} {w' : World}
      (ends : s.attempt [] ctx w (.call c) = (.ok ((v, shown), status), w')) :
      Alone w c (.ok v) w'
  | failed {f : Failure} {w' : World}
      (ends : s.attempt [] ctx w (.call c) = (.error (.failed f), w')) :
      Alone w c (.error f) w'

/-- Steps with one call each, one after the other: every call is made once, from the world that the
one before it has left, whatever became of that one. -/
inductive InTurn : World → List ApiCall → List (Except Failure Value) → World → Prop where
  | nil (w : World) : InTurn w [] [] w
  | cons {w w₁ w₂ : World} {c : ApiCall} {rest : List ApiCall} {slot : Except Failure Value}
      {slots : List (Except Failure Value)} (first : s.Alone ctx w c slot w₁)
      (later : InTurn w₁ rest slots w₂) :
      InTurn w (c :: rest) (slot :: slots) w₂

variable {s ctx}

theorem InTurn.length_eq {w w' : World} {calls : List ApiCall}
    {slots : List (Except Failure Value)} (h : s.InTurn ctx w calls slots w') :
    slots.length = calls.length := by
  induction h with
  | nil => rfl
  | cons _ _ ih => exact congrArg (· + 1) ih

/-- Without fallbacks a step is carried out once. -/
theorem attempt_nil (w : World) (act : Act) :
    s.attempt [] ctx w act
      = ((s.perform ctx w act).1.map fun p => (p, .completed), (s.perform ctx w act).2) := by
  unfold attempt
  rcases s.perform ctx w act with ⟨(⟨f⟩ | _) | p, w'⟩
  · dsimp only
    split <;> rfl
  · rfl
  · rfl

theorem attempt_call_of_error {w w' : World} {c : ApiCall} {stop : Stop}
    (h : s.callOne ctx w c = (.error stop, w')) :
    s.attempt [] ctx w (.call c) = (.error stop, w') := by
  rw [attempt_nil, perform, h]
  rfl

theorem alone_of_callOne_ok {w w' : World} {c : ApiCall} {p : Value × String}
    (h : s.callOne ctx w c = (.ok p, w')) : s.Alone ctx w c (.ok p.1) w' := by
  have hends : s.attempt [] ctx w (.call c) = (.ok ((p.1, some p.2), .completed), w') := by
    rw [attempt_nil, perform, h]
    rfl
  exact .answered hends

/-- Only a caller who gives up at some instant interrupts a call. -/
theorem cut_of_dispatch {w : World} {e : ProviderEntry} {spec : CallSpec}
    (h : (s.dispatch w e spec).1 = .error .interrupted) : s.cut ≠ none := by
  unfold dispatch at h
  split at h
  · cases h
  · split at h
    · next hcut =>
      intro hnone
      simp [cutsBefore, hnone] at hcut
    · exact absurd h (Ended.of_ne_interrupted _)

theorem cut_of_callOne {w : World} {c : ApiCall}
    (h : (s.callOne ctx w c).1 = .error .interrupted) : s.cut ≠ none := by
  unfold callOne at h
  split at h
  · cases h
  · split at h
    · next hdispatch =>
      obtain rfl := Except.error.inj h
      exact cut_of_dispatch (congrArg Prod.fst hdispatch)
    · exact absurd h (Ended.of_ne_interrupted _)

/-! ## The calls of a batch -/

/-- The calls of a batch are made in turn, up to the one during which the caller gives up. -/
inductive Proceeds (s : Surroundings) (ctx : Context) (provider : String) (w : World)
    (calls : List ApiCall) : Ended (List (Except Failure Value)) × World → Prop where
  | through {slots : List (Except Failure Value)} {w' : World}
      (made : s.InTurn ctx w (calls.map (·.withProvider provider)) slots w') :
      Proceeds s ctx provider w calls (.ok slots, w')
  | interrupted {made : List ApiCall} {c : ApiCall} {left : List ApiCall}
      {slots : List (Except Failure Value)} {w₁ w' : World} (cut : s.cut ≠ none)
      (split : calls = made ++ c :: left)
      (before : s.InTurn ctx w (made.map (·.withProvider provider)) slots w₁)
      (last : s.attempt [] ctx w₁ (.call (c.withProvider provider)) = (.error .interrupted, w')) :
      Proceeds s ctx provider w calls (.error .interrupted, w')

/-- The calls of a batch are made in turn. -/
theorem proceeds_batchFrom (provider : String) (w : World) (calls : List ApiCall) :
    s.Proceeds ctx provider w calls (s.batchFrom ctx provider w calls) := by
  induction calls generalizing w with
  | nil => exact .through (.nil w)
  | cons c rest ih =>
      -- What the rest gives is prefixed with the slot of this call, in whichever way it ended.
      have hlater {slot : Except Failure Value} {w₁ : World}
          (hfirst : s.Alone ctx w (c.withProvider provider) slot w₁) :
          s.Proceeds ctx provider w (c :: rest)
            ((s.batchFrom ctx provider w₁ rest).1.map (slot :: ·),
              (s.batchFrom ctx provider w₁ rest).2) := by
        have hrest := ih w₁
        generalize s.batchFrom ctx provider w₁ rest = result at hrest ⊢
        cases hrest with
        | through made => exact .through (.cons hfirst made)
        | @interrupted made d left _ _ _ cut split before last =>
            have hsplit : c :: rest = (c :: made) ++ d :: left := congrArg (c :: ·) split
            exact .interrupted cut hsplit (.cons hfirst before) last
      rw [batchFrom]
      split
      · next w₁ hcall =>
        have hsplit : c :: rest = [] ++ c :: rest := rfl
        exact .interrupted (cut_of_callOne (congrArg Prod.fst hcall)) hsplit (.nil w)
          (attempt_call_of_error hcall)
      · next f w₁ hcall => exact hlater (.failed (attempt_call_of_error hcall))
      · next v id w₁ hcall => exact hlater (alone_of_callOne_ok hcall)

end Surroundings

/-! ## The result of a batch -/

/-- An entry is tagged with what became of its call. -/
inductive Tagged : Except Failure Value → Value → Prop where
  | success (v : Value) : Tagged (.ok v) (.ofMembers [("success", .bool true), ("data", v)])
  | failure (f : Failure) :
      Tagged (.error f) (.ofMembers [("success", .bool false), ("error", .text f.message)])

theorem tagged_batchEntry (slot : Except Failure Value) :
    Tagged slot (Surroundings.batchEntry slot) := by
  cases slot with
  | error f => exact .failure f
  | ok v => exact .success v

/-- How a batch ends, from what became of each call. -/
inductive Collected (provider : String) (slots : List (Except Failure Value)) :
    Ended Performed → Prop where
  /-- a call succeeded, or there are none: one entry for each call, in their order -/
  | entries {values : List Value} (any : slots = [] ∨ ∃ v, .ok v ∈ slots)
      (each : List.Forall₂ Tagged slots values) :
      Collected provider slots (.ok (.list values, some provider))
  /-- there are calls, and all of them failed: one failure for each, in their order -/
  | allFailed {failures : List Failure} (any : failures ≠ [])
      (all : slots = failures.map .error) :
      Collected provider slots (.error (.failed (.allFailed failures)))

theorem collected_batchResult (provider : String) (slots : List (Except Failure Value)) :
    Collected provider slots
      (.of ((Surroundings.batchResult slots).map fun v => (v, some provider))) := by
  unfold Surroundings.batchResult
  rcases houtcomes : outcomesOf slots with ⟨successful, failures⟩
  dsimp only
  split
  · next hfailed =>
    rw [Bool.and_eq_true, List.isEmpty_iff, Bool.not_eq_true', List.isEmpty_eq_false_iff] at hfailed
    have hnone : (outcomesOf slots).1 = [] := by rw [houtcomes]; exact hfailed.2
    have hall := eq_map_error_of_outcomesOf hnone
    rw [houtcomes] at hall
    refine .allFailed (fun hnil => hfailed.1 ?_) hall
    rw [hall, hnil]
    rfl
  · next hsome =>
    refine .entries ?_ (List.forall₂_map_right_iff.2 (List.forall₂_same.2 fun slot _ =>
      tagged_batchEntry slot))
    rw [Bool.and_eq_true, List.isEmpty_iff, Bool.not_eq_true', List.isEmpty_eq_false_iff,
      not_and_or, not_not] at hsome
    refine hsome.imp_right fun hsuccessful => ?_
    obtain ⟨v, hv⟩ := List.exists_mem_of_ne_nil successful hsuccessful
    obtain rfl : slots.filterMap Except.toOption = successful := congrArg Prod.fst houtcomes
    obtain ⟨slot, hslot, hsome⟩ := List.mem_filterMap.1 hv
    exact ⟨v, Fallible.eq_ok_of_toOption hsome ▸ hslot⟩

namespace Surroundings

variable (s : Surroundings) (ctx : Context)

/-- **Call by call.**  Let rendering leave the provider of a batch as it is.  Then the calls of the
batch are made one after the other, each once, and what becomes of each is what becomes of it by
itself, without fallbacks, from the world that the calls before it have left.  If there are no calls
or one of them succeeded, the batch gives one tagged entry for each call, in their order; otherwise
it fails with the failures of all calls, in their order.  Only where the caller gives up at some
instant may a call be interrupted; the calls before it are made in the same way, and the batch is
interrupted with it. -/
theorem batch_one_by_one {provider : String}
    (h : ctx.render s.config.unresolved provider = .ok provider) (w : World)
    (calls : List ApiCall) :
    (∃ slots ended w', s.InTurn ctx w (calls.map (·.withProvider provider)) slots w' ∧
        slots.length = calls.length ∧ Collected provider slots ended ∧
        s.perform ctx w (.batch provider calls) = (ended, w') ∧
        s.attempt [] ctx w (.batch provider calls) = (ended.map fun p => (p, .completed), w')) ∨
      s.cut ≠ none ∧ ∃ made c left slots w₁ w', calls = made ++ c :: left ∧
        s.InTurn ctx w (made.map (·.withProvider provider)) slots w₁ ∧
        s.attempt [] ctx w₁ (.call (c.withProvider provider)) = (.error .interrupted, w') ∧
        s.perform ctx w (.batch provider calls) = (.error .interrupted, w') := by
  have hproceeds : s.Proceeds ctx provider w calls (s.batchFrom ctx provider w calls) :=
    proceeds_batchFrom provider w calls
  have hperform : s.perform ctx w (.batch provider calls)
      = concludeBatch provider (s.batchFrom ctx provider w calls) := by
    rw [perform_batch, h, batchFrom_eq_deliverInTurn]
  generalize s.batchFrom ctx provider w calls = result at hproceeds hperform
  cases hproceeds with
  | @through slots w' made =>
      refine .inl ⟨slots, _, w', made, ?_, collected_batchResult provider slots, hperform, ?_⟩
      · rw [made.length_eq, List.length_map]
      · rw [attempt_nil, hperform]
        rfl
  | interrupted cut split before last =>
      exact .inr ⟨cut, _, _, _, _, _, _, split, before, last, hperform⟩

/-- The second of three calls goes to an endpoint that the provider does not have, and the third is
made all the same. -/
theorem batch_one_by_one_amid_failure :
    Context.empty.render answersInOrder.config.unresolved "alpha" = .ok "alpha" ∧
      ∃ slots w', answersInOrder.InTurn .empty alphaAlone
          (threeCalls.map (·.withProvider "alpha")) slots w' ∧ slots.length = 3 := by
  have hrender : Context.empty.render answersInOrder.config.unresolved "alpha" = .ok "alpha" :=
    Fallible.eq_ok_of_toOption (by decide +kernel)
  refine ⟨hrender, ?_⟩
  rcases answersInOrder.batch_one_by_one .empty hrender alphaAlone threeCalls with
    ⟨slots, _, w', hmade, hlength, -⟩ | ⟨hcut, -⟩
  · exact ⟨slots, w', hmade, hlength⟩
  · exact absurd rfl hcut

end Surroundings

end Planwright
