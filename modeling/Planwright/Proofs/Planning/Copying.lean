import Planwright.Proofs.Execution.History
import Planwright.Proofs.Planning.Conditions
import Planwright.Proofs.Planning.Verbatim

set_option autoImplicit false

/-!
# Recipes that are copied before they are run

Planning without entities copies a template and writes every text in it again.  A text that is
rendered means the same as before, and so steps do the same when such texts are written again
(`execute_retext_rendered`).  A text that is used as it is does not: what a copy does is what the
template does once those texts have been written again (`execute_instantiate_nil`).
-/

namespace Planwright

open Template (restated)

/-! ## Texts that are rendered -/

namespace Context

variable (policy : UnresolvedPolicy) (c : Context)

theorem render_restated (s : String) : c.render policy (restated s) = c.render policy s := by
  rw [render, render, Template.parse_restated]

theorem resolveText_restated (s : String) :
    c.resolveText policy (restated s) = c.resolveText policy s := by
  rw [resolveText, resolveText, Template.parse_restated, render_restated]

theorem resolveValue_restated (v : Value) :
    c.resolveValue policy (v.mapText restated) = c.resolveValue policy v := by
  apply resolveValue_mapText
  intro s _
  exact resolveText_restated policy c s

theorem condition_change_restated (v : Value) :
    c.condition policy (FieldUse.condition.change id restated v) = c.condition policy v := by
  cases v with
  | text s =>
      rw [FieldUse.change]
      by_cases hs : Template.hasReferences s
      · have hreferences : (Template.parse s).references ≠ [] := by
          simpa [Template.hasReferences] using hs
        have hagain : (Template.parse (restated s)).references ≠ [] := by
          rwa [Template.parse_restated]
        rw [if_pos hs, condition_of_references policy c hreferences,
          condition_of_references policy c hagain, Template.parse_restated, render_restated]
      · rw [if_neg hs]
        rfl
  | list items =>
      exact congrArg Except.ok (Value.isTruthy_mapText restated (by intro _ htext; cases htext))
  | object members =>
      exact congrArg Except.ok (Value.isTruthy_mapText restated (by intro _ htext; cases htext))
  | _ => rfl

end Context

/-! ## Calls -/

theorem Value.mapText_restated_restated (v : Value) :
    (v.mapText restated).mapText restated = v.mapText restated := by
  rw [mapText_mapText]
  exact congrArg (mapText · v) (funext Template.restated_restated)

namespace ApiCall

variable (policy : UnresolvedPolicy) (ctx : Context) (w : World)

theorem prepare_retext (c : ApiCall) :
    (c.retext restated).prepare policy ctx w = c.prepare policy ctx w := by
  have htarget :
      entryOf policy ctx w (c.target.retext restated) = entryOf policy ctx w c.target := by
    cases c.target with
    | provider id => rw [CallTarget.retext, entryOf, entryOf, Context.render_restated]
    | category name requirements =>
        rw [CallTarget.retext, entryOf, entryOf, Context.render_restated]
  obtain ⟨target, endpoint, params, method, body, transform⟩ := c
  simp only [prepare, retext, htarget, Context.resolveValue_restated, Context.render_restated]
  cases body with
  | none => rfl
  | some b => simp only [Option.map_some, Context.resolveValue_restated]

/-- Texts that have been written again stay as they are, whatever target the call is given. -/
theorem retext_target_retext (c : ApiCall) (target : CallTarget) :
    ApiCall.retext restated { c.retext restated with target := target }
      = ApiCall.retext restated { c with target := target } := by
  obtain ⟨_, endpoint, params, method, body, transform⟩ := c
  cases body <;> simp [retext, Template.restated_restated, Value.mapText_restated_restated]

theorem retext_withProvider_retext (c : ApiCall) (id : String) :
    ((c.retext restated).withProvider id).retext restated
      = (c.withProvider id).retext restated :=
  c.retext_target_retext (.provider id)

theorem retext_retext (c : ApiCall) : (c.retext restated).retext restated = c.retext restated := by
  have htarget : (c.target.retext restated).retext restated = c.target.retext restated := by
    cases c.target <;> simp only [CallTarget.retext, Template.restated_restated]
  refine (c.retext_target_retext (c.target.retext restated)).trans ?_
  simp only [retext, htarget]

end ApiCall

/-- An instruction whose texts have been written again, and which is then addressed to another
provider, has no other text than that provider's to be written again. -/
theorem Act.retext_withProvider_retext (act : Act) (id : String) :
    ((act.retext restated).withProvider id).retext restated
      = (act.withProvider id).retext restated := by
  cases act with
  | call c => exact congrArg Act.call (c.retext_withProvider_retext id)
  | parallel calls =>
      simp only [Act.retext, Act.withProvider, List.map_map]
      exact congrArg Act.parallel
        (List.map_congr_left fun c _ => c.retext_withProvider_retext id)
  | batch provider calls =>
      simp only [Act.retext, Act.withProvider, List.map_map]
      exact congrArg (Act.batch (restated id)) (List.map_congr_left fun c _ => c.retext_retext)
  | transform input function places => rfl
  | _ =>
      simp only [Act.retext, Act.withProvider, Template.restated_restated,
        Value.mapText_restated_restated]

namespace Surroundings

variable (s : Surroundings) (ctx : Context)

theorem callOne_retext (w : World) (c : ApiCall) :
    s.callOne ctx w (c.retext restated) = s.callOne ctx w c := by
  rw [callOne, callOne, ApiCall.prepare_retext]

theorem batchFrom_retext (provider : String) (w : World) (calls : List ApiCall) :
    s.batchFrom ctx provider w (calls.map (ApiCall.retext restated))
      = s.batchFrom ctx provider w calls := by
  induction calls generalizing w with
  | nil => rfl
  | cons c rest ih =>
      have hcall : s.callOne ctx w ((c.retext restated).withProvider provider)
          = s.callOne ctx w (c.withProvider provider) := by
        rw [← callOne_retext, ApiCall.retext_withProvider_retext, callOne_retext]
      simp only [List.map_cons, batchFrom, hcall, ih]

/-! ## Steps -/

theorem perform_retext (w : World) (act : Act) :
    s.perform ctx w (act.retext restated) = s.perform ctx w act := by
  cases act with
  | call c => rw [Act.retext, perform, perform, callOne_retext]
  | parallel calls =>
      have hprepare : (calls.map (ApiCall.retext restated)).map
            (fun c => c.prepare s.config.unresolved ctx w)
          = calls.map fun c => c.prepare s.config.unresolved ctx w := by
        rw [List.map_map]
        exact List.map_congr_left fun c _ => c.prepare_retext s.config.unresolved ctx w
      rw [Act.retext, perform, perform, callParallel, callParallel, hprepare]
  | batch provider calls =>
      simp only [Act.retext, perform, callBatch, Context.render_restated, batchFrom_retext]
  | calculate operation params =>
      simp only [Act.retext, perform, Act.calculated, Context.resolveValue_restated]
  | format template => simp only [Act.retext, perform, Context.render_restated]
  | transform input function places => rfl
  | fail e =>
      simp only [Act.retext, perform, Act.failed, Context.render_restated]
      rfl
  | custom action params => simp only [Act.retext, perform, invoke, Context.resolveValue_restated]

theorem tryFallbacks_retext (act : Act) (first : Failure) (w : World) (providers : List String) :
    s.tryFallbacks ctx (act.retext restated) first w providers
      = s.tryFallbacks ctx act first w providers := by
  induction providers generalizing w with
  | nil => rfl
  | cons provider rest ih =>
      have hperform : s.perform ctx w ((act.retext restated).withProvider provider)
          = s.perform ctx w (act.withProvider provider) := by
        rw [← perform_retext, Act.retext_withProvider_retext, perform_retext]
      simp only [tryFallbacks, hperform, ih]

theorem attempt_retext (fallbacks : List String) (w : World) (act : Act) :
    s.attempt fallbacks ctx w (act.retext restated) = s.attempt fallbacks ctx w act := by
  have huses : (act.retext restated).usesProviders = act.usesProviders := by cases act <;> rfl
  simp only [attempt, perform_retext, tryFallbacks_retext, huses]

variable (fallbacks : List String)

theorem runNode_retext :
    (∀ (n : Node) (place : Place) (st : RunState),
      s.runNode fallbacks place (n.retext restated) st = s.runNode fallbacks place n st) ∧
    ∀ (ns : List Node) (around : List (Nat × Bool)) (index : Nat) (last : Value) (st : RunState),
      s.runNodes fallbacks around index last (Node.retextAll restated ns) st
        = s.runNodes fallbacks around index last ns st := by
  refine Node.induction ?plain ?branch ?nil ?cons
  case plain =>
    intro head act place st
    rw [Node.retext, runNode, runNode, attempt_retext]
  case branch =>
    intro head condition ifTrue ifFalse htrue hfalse place st
    simp only [Node.retext, runNode, Context.condition_change_restated, htrue, hfalse]
  case nil => exact fun _ _ _ _ => rfl
  case cons =>
    intro n rest hn hrest around index last st
    simp only [Node.retextAll, runNodes, hn, hrest]

/-! ## Recipes -/

/-- A recipe does the same when the texts are written again that are rendered. -/
theorem execute_retext_rendered (w : World) (r : Recipe) :
    s.execute w (r.retext id restated) = s.execute w r := by
  have hempty : restated "" = "" := by decide +kernel
  have hfallbacks : r.fallbacks.map (Fallback.retext id) = r.fallbacks := List.map_id r.fallbacks
  have hrun : s.run w (r.retext id restated) = s.run w r := by
    simp only [run, Recipe.retext, Recipe.fallbackOrder, hfallbacks,
      Node.decode_retext restated hempty]
    cases Node.decode w.catalog.hasAction s.config.maxDepth r.steps with
    | error f => rfl
    | ok nodes => simp only [Except.map, (s.runNode_retext _).2]
  rw [execute, execute, hrun]

/-- **Planning without entities.**  The copy of a template does what the template does once the
texts in it have been written again that are used as they are.  If writing them again changes none
of them then the copy does what the template does: it gives the same execution, with its result, its
trace and its context, and leaves the same world, with the requests that were sent. -/
theorem execute_instantiate_nil (w : World) (r : Recipe) :
    s.execute w (r.instantiate []) = s.execute w (r.retext restated id) ∧
      (r.retext restated id = r → s.execute w (r.instantiate []) = s.execute w r) := by
  have hcopy : s.execute w (r.instantiate []) = s.execute w (r.retext restated id) := by
    rw [r.instantiate_nil_eq, execute_retext_rendered]
  refine ⟨hcopy, fun hkept => ?_⟩
  rw [hcopy, hkept]

/-- A world with one provider, whose calls have no parameters. -/
def oneEndpoint : World :=
  ⟨0, ⟨[], [], ⟨[.new "alpha" ⟨"https://a.test", [("p", "/p")], none, none, .zero, 0.5, [], none⟩
    none], .standard⟩⟩, [], []⟩

/-- Every request is answered at once, by an object whose only member has a backslash in its
name. -/
def answersMember : Surroundings :=
  ⟨fun _ _ => ⟨some 0, .ok ⟨200, .object [("price\\usd", .text "dear")]⟩⟩, .standard, none⟩

/-- A text with a backslash that is rendered. -/
def showsBackslash : Recipe :=
  ⟨1, [⟨"formatResponse", none, false, [("template", .text "a\\b")]⟩], []⟩

/-- The copy shows the same, although its text is another. -/
theorem execute_instantiate_nil_rendered :
    (((showsBackslash.instantiate []).steps.map fun step => step.fields.get? "template").filterMap
        fun found => found.bind Value.text?) = ["a\\\\b"] ∧
      answersMember.execute oneEndpoint (showsBackslash.instantiate [])
        = answersMember.execute oneEndpoint showsBackslash :=
  ⟨by decide +kernel, (execute_instantiate_nil answersMember oneEndpoint showsBackslash).2 rfl⟩

/-- A call whose answer has one member changed. -/
def changesMember : Recipe :=
  ⟨1, [⟨"apiCall", none, false, [("endpoint", .text "p"), ("provider", .text "alpha"),
    ("transform",
      .object [("field", .text "price\\usd"), ("function", .text "toUpperCase")])]⟩], []⟩

/-- The copy looks for a member with two backslashes in its name, which the answer does not have. -/
theorem copy_misses_member :
    (answersMember.execute oneEndpoint changesMember).1.result.isOk = true ∧
      (answersMember.execute oneEndpoint (changesMember.instantiate [])).1.result.isOk = false := by
  constructor <;> decide +kernel

end Surroundings

end Planwright
