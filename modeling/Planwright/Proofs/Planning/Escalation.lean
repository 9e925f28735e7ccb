import Planwright.Proofs.Handling
import Planwright.Proofs.Template.Restating
import Planwright.Proofs.Value.Fields

set_option autoImplicit false

/-!
# Intents that are handed back

Where there is no plan for an intent, the recipe is a single step that fails and carries the intent
along.  On its way the intent is written as a value and read again (`Intent.ofValue_toValue`), and
the texts in the message are escaped and rendered.  Each of these gives back what went in, so the
failure names domain and action as they were and holds the very same intent, and nothing else
happens (`escalation_inert`).
-/

namespace Planwright

open Fallible

/-! ## Intents as values -/

/-- Entities that are written are read as themselves. -/
theorem Entities.ofValue_toValue (e : Entities) : Entities.ofValue e.toValue = .ok e := by
  obtain ⟨target, parameters⟩ := e
  cases parameters with
  | nil => cases target <;> rfl
  | cons p rest =>
      cases target with
      | none => rfl
      | some t =>
          have hkeys : (Dict.keys [("parameters", Value.object (p :: rest)),
              ("target", Value.text t)]).Nodup := (by decide : ["parameters", "target"].Nodup)
          simp only [toValue, List.isEmpty_cons, Bool.false_eq_true, if_false, Value.optional,
            List.cons_append, List.nil_append, Value.ofMembers, ofValue, Shape.record_object,
            bind_of_ok, Dict.field?_ofEntries hkeys, Dict.nullable?_ofEntries hkeys]
          rfl

/-- Intents that are written are read as themselves, if their confidence is a number that can be
written. -/
theorem Intent.ofValue_toValue (i : Intent) (h : i.confidence.isFinite = true) :
    Intent.ofValue i.toValue = .ok i := by
  have hkeys : (Dict.keys [("action", Value.text i.action),
      ("confidence", .number (.real i.confidence)), ("domain", .text i.domain),
      ("entities", i.entities.toValue)]).Nodup :=
    (by decide : ["action", "confidence", "domain", "entities"].Nodup)
  have hconfidence : Value.ofFloat i.confidence = .number (.real i.confidence) := if_pos h
  have hentities : Dict.field? [("action", Value.text i.action),
      ("confidence", .number (.real i.confidence)), ("domain", .text i.domain),
      ("entities", i.entities.toValue)] "entities" Entities.ofValue = .ok (some i.entities) :=
    congrArg (Except.map some) (Entities.ofValue_toValue i.entities)
  simp only [toValue, Value.ofMembers, ofValue, Shape.record_object, hconfidence, bind_of_ok,
    Dict.field?_ofEntries hkeys, hentities]
  rfl

/-! ## The recipe that hands an intent back -/

namespace Synthesis

/-- The text with which an intent is handed back. -/
def escalationText (i : Intent) : String := "no recipe template for " ++ i.domain ++ "/" ++ i.action

/-- The failure with which an intent is handed back. -/
def escalationFailure (i : Intent) : Failure := .escalation (escalationText i) (some i)

/-- The step that hands an intent back says its text, escaped. -/
theorem escapeString_escalationText (i : Intent) :
    "no recipe template for " ++ Template.escapeString i.domain ++ "/"
        ++ Template.escapeString i.action = Template.escapeString (escalationText i) := by
  have hopening : Template.escape "no recipe template for ".toList
      = "no recipe template for ".toList :=
    Template.escape_of_unmarked (by decide +kernel) (by decide +kernel)
  have hbefore : "no recipe template for ".toList.getLast? ≠ some '$' := by decide +kernel
  have hslash : "/".toList = ['/'] := rfl
  unfold escalationText
  -- From here on only these three facts about the two literals count.
  generalize "no recipe template for " = opening at hopening hbefore ⊢
  generalize "/" = slash at hslash ⊢
  apply String.toList_injective
  simp only [Template.escapeString, String.toList_append, String.toList_ofList, List.append_assoc]
  rw [Template.escape_append (.inl hbefore), hopening, hslash,
    Template.escape_append (t := ['/'] ++ i.action.toList) (.inr (by simp))]
  rfl

/-- The instruction that hands an intent back. -/
def escalationStep (i : Intent) : ErrorStep :=
  ⟨Template.escapeString (escalationText i), none, false, true, some i⟩

theorem rawError_escalationRecipe (i : Intent) (h : i.confidence.isFinite = true) :
    Node.rawError (Dict.ofEntries
        [("message", .text (Template.escapeString (escalationText i))), ("escalate", .bool true),
          ("intent", i.toValue)]) = .ok (escalationStep i, none) := by
  have hkeys : (Dict.keys [("message", Value.text (Template.escapeString (escalationText i))),
      ("escalate", .bool true), ("intent", i.toValue)]).Nodup :=
    (by decide : ["message", "escalate", "intent"].Nodup)
  have hintent : Dict.nullable? [("message", Value.text (Template.escapeString (escalationText i))),
      ("escalate", .bool true), ("intent", i.toValue)] "intent" Intent.ofValue
        = .ok (some i) := by
    have hread : Shape.nullable Intent.ofValue i.toValue = (Intent.ofValue i.toValue).map some :=
      rfl
    have hfield : Dict.field? [("message", Value.text (Template.escapeString (escalationText i))),
        ("escalate", .bool true), ("intent", i.toValue)] "intent" (Shape.nullable Intent.ofValue)
          = (Shape.nullable Intent.ofValue i.toValue).map some := rfl
    rw [Dict.nullable?, hfield, hread, Intent.ofValue_toValue i h]
    rfl
  simp only [Node.rawError, Dict.field?_ofEntries hkeys, Dict.nullable?_ofEntries hkeys, hintent]
  rfl

/-- The recipe is read as the one instruction, whatever is installed and however deeply conditionals
may be nested. -/
theorem decode_escalationRecipe (hasAction : String → Bool) (limit : Nat) (i : Intent)
    (h : i.confidence.isFinite = true) :
    Node.decode hasAction limit (escalationRecipe i).steps
      = .ok [.plain ⟨"error", none, false⟩ (.fail (escalationStep i))] := by
  have htag : Tag.ofName? "error" = some (.act .error) := by decide +kernel
  have hstep (branch : List Step → Except Failure (List Node)) (fields : Dict Value)
      (hraw : Node.rawError fields = .ok (escalationStep i, none)) :
      Node.decodeStep hasAction branch ⟨"error", none, false, fields⟩
        = .ok (.plain ⟨"error", none, false⟩ (.fail (escalationStep i))) := by
    simp only [Node.decodeStep, htag, Node.decodeAct, hraw]
    rfl
  simp only [Node.decode, Node.decodeWithin, escalationRecipe, escapeString_escalationText,
    List.mapM_cons, List.mapM_nil, hstep _ _ (rawError_escalationRecipe i h)]
  rfl

end Synthesis

namespace Surroundings

open Synthesis

/-- The instruction fails as it should and does nothing else, whatever becomes of references that
lead nowhere. -/
theorem perform_escalationStep (s : Surroundings) (ctx : Context) (w : World) (i : Intent) :
    s.perform ctx w (.fail (escalationStep i)) = (.error (.failed (escalationFailure i)), w) := by
  have hfailed : Act.failed s.config.unresolved ctx (escalationStep i) = escalationFailure i := by
    rw [Act.failed, escalationStep, Context.render_escapeString]
    rfl
  rw [perform, hfailed]

/-- Executing the recipe leaves the world as it was. -/
theorem execute_escalationRecipe (s : Surroundings) (w : World) (i : Intent)
    (hfinite : i.confidence.isFinite = true) :
    (s.execute w (escalationRecipe i)).2 = w ∧
      (s.execute w (escalationRecipe i)).1.result
        = .error (if s.isCut w.now then .cancelled else escalationFailure i) := by
  have hdecode := decode_escalationRecipe w.catalog.hasAction s.config.maxDepth i hfinite
  have hattempt (fallbacks : List String) : s.attempt fallbacks .empty w (.fail (escalationStep i))
      = (.error (.failed (escalationFailure i)), w) := by
    rw [attempt, perform_escalationStep]
    rfl
  rw [execute, run, hdecode]
  cases hcut : s.isCut w.now with
  | true => exact ⟨rfl, rfl⟩
  | false =>
      simp only [runNodes, runNode, hattempt]
      exact ⟨rfl, rfl⟩

end Surroundings

namespace Engine

open Synthesis

/-- The recipe for an intent for which there is no plan. -/
theorem synthesize_of_no_plan (e : Engine) (query : String) (i : Intent)
    (hcapability : ∀ m, e.world.catalog.findMatching query = some m →
      e.world.catalog.templateFor? m.name i.action = none)
    (hplan : e.plans.get? i.domain i.action = none) :
    e.synthesize query i = ⟨escalationRecipe i, .escalation⟩ := by
  have htable : ofTable? e.plans i = none := by rw [ofTable?, hplan]; rfl
  have hmatched : ofCapability? e.world.catalog (e.world.catalog.findMatching query) i = none := by
    cases hmatch : e.world.catalog.findMatching query with
    | none => rfl
    | some m =>
        simp only [ofCapability?, Option.bind_eq_bind, Option.bind_some, hcapability m hmatch,
          Option.bind_none]
  rw [Engine.synthesize, Synthesis.synthesize, hmatched, htable]
  rfl

/-- **Handing back.**  Whatever is installed and however an engine is set, as long as recipes of
full confidence are run: if neither the capability that matches a query nor the table has a plan for
an intent, then executing the recipe for it leaves the engine and its world as they were, so that no
request is sent, and fails with an escalation that names domain and action exactly and holds the
intent itself.  And handling the query leaves everything as it was, too, and says so: no success,
the hint that the request should be answered in another way, and the source. -/
theorem escalation_inert (e : Engine) (network : Network) (query : String) (i : Intent)
    (hthreshold : e.config.planner.threshold ≤ 1.0) (hfinite : i.confidence.isFinite = true)
    (hcapability : ∀ m, e.world.catalog.findMatching query = some m →
      e.world.catalog.templateFor? m.name i.action = none)
    (hplan : e.plans.get? i.domain i.action = none) :
    (∀ cancelAfter, cancelAfter ≠ some 0 →
      (e.execute network cancelAfter (e.synthesize query i).recipe).2 = e ∧
      (e.execute network cancelAfter (e.synthesize query i).recipe).1.result
        = .error (.escalation ("no recipe template for " ++ i.domain ++ "/" ++ i.action)
            (some i))) ∧
    ∀ cancelAfter id,
      (e.handle network cancelAfter id query i).2 = e ∧
      (e.handle network cancelAfter id query i).1.success = false ∧
      (e.handle network cancelAfter id query i).1.escalate = true ∧
      (e.handle network cancelAfter id query i).1.source = "escalation" := by
  rw [e.synthesize_of_no_plan query i hcapability hplan]
  have hexecute (cancelAfter : Option Nat) :=
    (e.surroundings network cancelAfter).execute_escalationRecipe e.world i hfinite
  refine ⟨fun cancelAfter hcut => ⟨?_, ?_⟩, fun cancelAfter id => ?_⟩
  · exact congrArg (fun w => { e with world := w }) (hexecute cancelAfter).1
  · have hnow : (e.surroundings network cancelAfter).isCut e.world.now = false := by
      cases cancelAfter with
      | none => rfl
      | some ms =>
          have hlate : ¬ e.world.now + ms ≤ e.world.now := by
            have hms : ms ≠ 0 := fun h => hcut (congrArg some h)
            omega
          simpa [Engine.surroundings, Surroundings.isCut] using hlate
    have hresult := (hexecute cancelAfter).2
    rw [hnow] at hresult
    exact hresult
  · have hadmits : e.config.planner.admits (escalationRecipe i) = true :=
      decide_eq_true hthreshold
    have hsynthesize := e.synthesize_of_no_plan query i hcapability hplan
    rw [e.handle_of_admits network cancelAfter id query i (by rw [hsynthesize]; exact hadmits),
      hsynthesize]
    refine ⟨congrArg (fun w => { e with world := w }) (hexecute cancelAfter).1, ?_⟩
    have hresult : (e.execute network cancelAfter (escalationRecipe i)).1.result = _ :=
      (hexecute cancelAfter).2
    rw [outcomeOf, hresult]
    exact ⟨rfl, rfl, rfl⟩

/-- An engine with one capability, which has a trigger but no recipe. -/
def planless : Engine :=
  ⟨.standard, .empty,
    ⟨7, { Catalog.empty .standard with
            capabilities := [("weather", ⟨"1", [.literal "rain".toList], [], [], []⟩)] }, [], []⟩⟩

/-- An intent all of whose texts hold what templates are made of. -/
def markedIntent : Intent :=
  ⟨"a\\${x}", "{b}\\", ⟨some "$${y}", [("c", .text "\\$\x7bz")]⟩, 0.5⟩

/-- The capability that matches has no recipe, and the intent comes back as it was. -/
theorem escalation_inert_markedIntent :
    (planless.world.catalog.findMatching "Rain tomorrow?").map (·.name) = some "weather" ∧
    (planless.execute (fun _ _ => ⟨none, .ok ⟨200, .null⟩⟩) none
        (planless.synthesize "Rain tomorrow?" markedIntent).recipe).1.result
      = .error (.escalation "no recipe template for a\\${x}/{b}\\"
          (some markedIntent)) ∧
    (planless.handle (fun _ _ => ⟨none, .ok ⟨200, .null⟩⟩) none "first" "Rain tomorrow?"
        markedIntent).2 = planless := by
  have hmatch : (planless.world.catalog.findMatching "Rain tomorrow?").map (·.name)
      = some "weather" := by decide +kernel
  have hcapability (m : CapabilityMatch)
      (hm : planless.world.catalog.findMatching "Rain tomorrow?" = some m) :
      planless.world.catalog.templateFor? m.name markedIntent.action = none := by
    rw [hm] at hmatch
    obtain hname : m.name = "weather" := Option.some.inj hmatch
    rw [hname]
    rfl
  obtain ⟨hexecute, hhandle⟩ := escalation_inert planless (fun _ _ => ⟨none, .ok ⟨200, .null⟩⟩)
    "Rain tomorrow?" markedIntent (by decide +kernel) (by decide +kernel) hcapability rfl
  exact ⟨hmatch, (hexecute none nofun).2, (hhandle none "first").1⟩

end Engine

end Planwright
