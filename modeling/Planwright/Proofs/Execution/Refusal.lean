import Planwright.Execution.Run
import Planwright.Proofs.Instruction.Admission

set_option autoImplicit false

/-!
# Recipes that are refused

A recipe is refused before any of it is run.  A single tag that is not known, in a branch that would
never be taken as well as at the top, keeps every step of the recipe from having any effect.
-/

namespace Planwright

namespace Surroundings

/-- A recipe that cannot be read fails and leaves the world as it was, whether or not the caller has
given up. -/
theorem execute_of_decode_eq_error (s : Surroundings) {w : World} {r : Recipe} {f : Failure}
    (h : Node.decode w.catalog.hasAction s.config.maxDepth r.steps = .error f) :
    s.execute w r = (⟨.error f, .failed, [], .empty, w.now, w.now⟩, w) := by
  have hrefusal : Node.Refusal f := Node.onlyFails_decode _ _ _ f h
  unfold execute run
  rw [h]
  cases hrefusal with
  | malformed detail => rfl
  | unknown detail => rfl

/-- **Whitelisting.**  If a step of a recipe carries a tag that is not known, at whatever depth of
its branches, then executing the recipe fails, leaves no trace and an empty context, and the world
is as it was: no request is sent, no action invoked, and no counter or budget touched. -/
theorem execute_of_carries_unknown (s : Surroundings) (w : World) (r : Recipe) {step : Step}
    (hstep : step ∈ r.steps) {tag : String} (hcarries : Step.Carries tag step.op step.fields)
    (hunknown : ¬ Node.Known w.catalog.hasAction tag) :
    ∃ f, Node.Refusal f ∧
      s.execute w r = (⟨.error f, .failed, [], .empty, w.now, w.now⟩, w) := by
  cases h : Node.decode w.catalog.hasAction s.config.maxDepth r.steps with
  | ok nodes => exact absurd (Node.known_of_decode_eq_ok h hstep hcarries) hunknown
  | error f => exact ⟨f, Node.onlyFails_decode _ _ _ f h, s.execute_of_decode_eq_error h⟩

/-- A recipe that first calls a provider, and two branches deep, under both spellings, names an
action that nothing has brought along. -/
def buriedAction : Recipe :=
  ⟨1.0,
    [⟨"apiCall", some "quote", false, [("endpoint", .text "price"), ("provider", .text "alpha")]⟩,
      ⟨"conditional", none, false,
        [("condition", .bool true),
          ("ifTrue", .list
            [.object
              [("condition", .bool true),
                ("if_false", .list [.object [("type", .text "files.erase")]]),
                ("type", .text "conditional")]])]⟩],
    []⟩

theorem execute_buriedAction :
    ∃ f, Node.Refusal f ∧
      (Surroundings.mk (fun _ _ => ⟨some 5, .ok ⟨200, .null⟩⟩) .standard none).execute
          ⟨7, .empty .standard, [], []⟩ buriedAction
        = (⟨.error f, .failed, [], .empty, 7, 7⟩, ⟨7, .empty .standard, [], []⟩) :=
  execute_of_carries_unknown _ ⟨7, .empty .standard, [], []⟩ buriedAction
    (List.mem_cons_of_mem _ List.mem_cons_self)
    (.nested (show "ifTrue" ∈ Step.branchFields by decide) rfl List.mem_cons_self rfl
      (.nested (show "if_false" ∈ Step.branchFields by decide) rfl List.mem_cons_self rfl
        (.own _)))
    (by decide +kernel)

end Surroundings

end Planwright
