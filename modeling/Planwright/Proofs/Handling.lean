import Planwright.Engine
import Planwright.Proofs.Double.Order
import Planwright.Proofs.Instruction.Admission
import Planwright.Proofs.Retrying

set_option autoImplicit false

/-!
# What an outcome says

A request is either turned down before anything is run, or a recipe is executed and the outcome
reports what became of it.  Which of the two it is depends on the confidence of the recipe alone,
and in either case the parts of the outcome fit one another (`outcome_coherent`): it never reports a
success that asks for another answer, nor a failure without saying whether a retry may help.
-/

namespace Planwright

open Fallible

/-! ## Failures -/

namespace Failure

/-- The failures that ask for another answer are escalations and unknown operations. -/
theorem shouldEscalate_iff (f : Failure) :
    f.shouldEscalate = true ↔
      (∃ detail intent, f = .escalation detail intent) ∨
        ∃ detail, f = .unknownOperation detail := by
  cases f with
  | plain kind detail => cases kind <;> simp [shouldEscalate]
  | escalation detail intent => simp [shouldEscalate]
  | _ => simp [shouldEscalate]

end Failure

/-! ## Where a recipe came from -/

namespace PlanSource

theorem text_eq_escalation_iff (source : PlanSource) :
    source.text = "escalation" ↔ source = .escalation := by
  have hfirst {opening rest : String} {c : Char} (hc : opening.toList.head? = some c)
      (hne : c ≠ 'e') : opening ++ rest ≠ "escalation" := by
    intro h
    have htext : (opening ++ rest).toList.head? = some 'e' := by rw [h]; rfl
    rw [String.toList_append, List.head?_append, hc] at htext
    exact hne (Option.some.inj htext)
  cases source with
  | escalation => exact ⟨fun _ => rfl, fun _ => rfl⟩
  | table domain action =>
      refine ⟨fun h => absurd h ?_, nofun⟩
      simp only [text, String.append_assoc]
      exact hfirst (c := 'b') rfl (by decide)
  | capability name template =>
      refine ⟨fun h => absurd h ?_, nofun⟩
      simp only [text, String.append_assoc]
      exact hfirst (c := 'c') rfl (by decide)

end PlanSource

namespace Synthesis

/-- A recipe that came from nowhere else hands the intent back. -/
theorem recipe_of_escalation {k : Catalog} {t : PlanTable} {matched : Option CapabilityMatch}
    {i : Intent} (h : (synthesize k t matched i).source = .escalation) :
    (synthesize k t matched i).recipe = escalationRecipe i := by
  rw [synthesize] at h ⊢
  cases hcapability : ofCapability? k matched i with
  | some plan =>
      obtain ⟨name, template, hsource⟩ := source_of_ofCapability? hcapability
      rw [hcapability] at h
      cases hsource.symm.trans h
  | none =>
      rw [hcapability] at h
      cases htable : ofTable? t i with
      | some plan =>
          rw [htable] at h
          obtain ⟨p, -, rfl⟩ := Option.map_eq_some_iff.1 htable
          cases h
      | none => rfl

end Synthesis

/-! ## A recipe that only fails -/

/-- A step with the tag of errors fails on purpose, if it is read at all. -/
theorem Node.fail_of_decode_error {hasAction : String → Bool} {limit : Nat} {s : Step}
    {nodes : List Node} (hop : s.op = "error") (h : decode hasAction limit [s] = .ok nodes) :
    ∃ head e, nodes = [.plain head (.fail e)] := by
  have htag : Tag.ofName? s.op = some (.act .error) := by rw [hop]; decide +kernel
  rw [decode, decodeWithin, List.mapM_cons] at h
  simp only [decodeStep, htag, bind_eq_ok, List.mapM_nil] at h
  obtain ⟨n, ⟨act, hact, hn⟩, rest, hrest, hnodes⟩ := h
  obtain rfl : Node.plain ⟨s.op, s.assignTo, s.returns⟩ act = n := Except.ok.inj hn
  obtain rfl : [] = rest := Except.ok.inj hrest
  obtain rfl : [Node.plain ⟨s.op, s.assignTo, s.returns⟩ act] = nodes := Except.ok.inj hnodes
  obtain ⟨e, rfl⟩ : ∃ e, act = .fail e := by
    simp only [decodeAct, bind_eq_ok] at hact
    obtain ⟨⟨e, word⟩, -, hact⟩ := hact
    cases word with
    | none => exact ⟨e, (Except.ok.inj hact).symm⟩
    | some word =>
        cases hkind : FailureKind.ofName? word with
        | none => simp [hkind, throw, throwThe, MonadExceptOf.throw] at hact
        | some kind =>
            simp only [hkind] at hact
            exact ⟨_, (Except.ok.inj hact).symm⟩
  exact ⟨_, e, rfl⟩

namespace Surroundings

/-- A recipe whose one step is an error never succeeds. -/
theorem execute_error_ne_ok (s : Surroundings) (w : World) {r : Recipe} {step : Step}
    (hsteps : r.steps = [step]) (hop : step.op = "error") (data : Value) :
    (s.execute w r).1.result ≠ .ok data := by
  intro h
  rw [execute, run, hsteps] at h
  cases hdecode : Node.decode w.catalog.hasAction s.config.maxDepth [step] with
  | error f =>
      rw [hdecode] at h
      cases h
  | ok nodes =>
      obtain ⟨head, e, rfl⟩ := Node.fail_of_decode_error hop hdecode
      rw [hdecode] at h
      cases hcut : s.isCut w.now with
      | true =>
          simp only [hcut, if_true] at h
          cases h
      | false =>
          simp only [hcut, Bool.false_eq_true, if_false, runNodes, runNode, attempt, perform,
            Act.usesProviders, Bool.false_and] at h
          cases h

end Surroundings

/-! ## Outcomes -/

namespace Outcome

/-- What the outcome says of a request that was turned down. -/
structure TurnedDown (o : Outcome) : Prop where
  failed : o.success = false
  kind : o.error.map (·.kind) = some .ambiguousIntent
  escalate : o.escalate = true
  not_run : o.executionId = none

/-- What the outcome says of an execution with a result. -/
structure Reports (o : Outcome) (id : String) (result : Except Failure Value) : Prop where
  run : o.executionId = some id
  success_iff : o.success = true ↔ ∃ data, result = .ok data
  succeeded : ∀ data, result = .ok data →
    o.data = some data ∧ o.error = none ∧ o.escalate = false
  failed : ∀ f, result = .error f →
    o.data = none ∧
      (∃ info, o.error = some info ∧ info = FailureInfo.ofFailure f ∧
        (info.retryable = true ↔ info.disposition = .retryable)) ∧
      (o.escalate = true ↔ (∃ detail intent, f = .escalation detail intent) ∨
        (∃ detail, f = .unknownOperation detail) ∨ o.source = "escalation")

end Outcome

namespace Engine

variable (e : Engine) (network : Network) (cancelAfter : Option Nat) (id query : String)
  (i : Intent)

theorem handle_of_admits
    (h : e.config.planner.admits (e.synthesize query i).recipe = true) :
    e.handle network cancelAfter id query i
      = (outcomeOf (e.synthesize query i).source id
          (e.execute network cancelAfter (e.synthesize query i).recipe).1,
        (e.execute network cancelAfter (e.synthesize query i).recipe).2) :=
  if_pos h

theorem handle_of_not_admits
    (h : ¬ e.config.planner.admits (e.synthesize query i).recipe = true) :
    e.handle network cancelAfter id query i
      = ((Outcome.ofFailure (e.belowThreshold (e.synthesize query i).recipe)
          (e.synthesize query i).source.text).escalating, e) :=
  if_neg h

theorem turnedDown_belowThreshold (r : Recipe) (source : String) :
    (Outcome.ofFailure (e.belowThreshold r) source).escalating.TurnedDown :=
  ⟨rfl, rfl, rfl, rfl⟩

/-- The outcome of an execution reports it, unless it is one of handing an intent back that
succeeded. -/
theorem reports_outcomeOf (source : PlanSource) (x : Execution)
    (hescalation : source = .escalation → ∀ data, x.result ≠ .ok data) :
    (outcomeOf source id x).Reports id x.result := by
  have hsource : (outcomeOf source id x).source = source.text := by
    rw [outcomeOf]
    cases x.result <;> split <;> rfl
  cases hresult : x.result with
  | ok data =>
      have hne : source ≠ .escalation := fun h => hescalation h data hresult
      have houtcome : outcomeOf source id x
          = (Outcome.ofResult data source.text).withExecution id (some x.elapsed) := by
        rw [outcomeOf, hresult]
        exact if_neg hne
      rw [houtcome]
      refine ⟨rfl, ⟨fun _ => ⟨data, rfl⟩, fun _ => rfl⟩, fun other hother => ?_, nofun⟩
      obtain rfl := Except.ok.inj hother
      exact ⟨rfl, rfl, rfl⟩
  | error f =>
      have hplain : (outcomeOf source id x).executionId = some id ∧
          (outcomeOf source id x).success = false ∧ (outcomeOf source id x).data = none ∧
          (outcomeOf source id x).error = some (FailureInfo.ofFailure f) := by
        rw [outcomeOf, hresult]
        split <;> exact ⟨rfl, rfl, rfl, rfl⟩
      have hescalate : (outcomeOf source id x).escalate = true ↔
          f.shouldEscalate = true ∨ source = .escalation := by
        rw [outcomeOf, hresult]
        split
        · next h => exact ⟨fun _ => .inr h, fun _ => rfl⟩
        · next h => exact ⟨.inl, fun hor => hor.resolve_right h⟩
      obtain ⟨hrun, hsuccess, hdata, herror⟩ := hplain
      refine ⟨hrun, ⟨fun h => ?_, nofun⟩, nofun, fun other hother => ?_⟩
      · rw [hsuccess] at h
        cases h
      · obtain rfl := Except.error.inj hother
        refine ⟨hdata, ⟨_, herror, rfl, f.isRetryable_iff⟩, ?_⟩
        rw [hescalate, hsource, f.shouldEscalate_iff, source.text_eq_escalation_iff, or_assoc]

/-- **Handling.**  A recipe is run exactly if its confidence is at least the threshold.  One that is
not (its confidence is below, or there is nothing to compare) leaves the engine and its world as
they were, and the request is turned down.  One that is leaves behind what executing it leaves
behind, and the outcome reports the execution: it succeeds exactly if there is a result. -/
theorem outcome_coherent :
    (¬ e.config.planner.threshold ≤ (e.synthesize query i).recipe.confidence →
      (e.handle network cancelAfter id query i).2 = e ∧
        (e.handle network cancelAfter id query i).1.TurnedDown) ∧
    (e.config.planner.threshold ≤ (e.synthesize query i).recipe.confidence →
      (e.handle network cancelAfter id query i).2
          = (e.execute network cancelAfter (e.synthesize query i).recipe).2 ∧
        (e.handle network cancelAfter id query i).1.Reports id
          (e.execute network cancelAfter (e.synthesize query i).recipe).1.result) ∧
    (¬ e.config.planner.threshold ≤ (e.synthesize query i).recipe.confidence ↔
      (e.synthesize query i).recipe.confidence < e.config.planner.threshold ∨
        e.config.planner.threshold.isNaN = true ∨
        (e.synthesize query i).recipe.confidence.isNaN = true) := by
  refine ⟨fun hbelow => ?_, fun hmeets => ?_, Double.not_le_iff _ _⟩
  · rw [e.handle_of_not_admits network cancelAfter id query i (mt of_decide_eq_true hbelow)]
    exact ⟨rfl, e.turnedDown_belowThreshold _ _⟩
  · rw [e.handle_of_admits network cancelAfter id query i (decide_eq_true hmeets)]
    refine ⟨rfl, reports_outcomeOf id _ _ fun hsource data => ?_⟩
    have hrecipe : (e.synthesize query i).recipe = Synthesis.escalationRecipe i :=
      Synthesis.recipe_of_escalation hsource
    rw [hrecipe]
    exact (e.surroundings network cancelAfter).execute_error_ne_ok e.world rfl rfl data

end Engine

end Planwright
