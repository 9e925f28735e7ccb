import Planwright.Proofs.Instruction.Admission

set_option autoImplicit false

/-!
# The actions that steps name

A step is read as an action only if there is an action of this name, and this goes for steps in
branches as for all others.  So every action that is named by what was read is there, however deep
the step stands that names it (`hasAction_of_decode`), and a fallback names no others
(`Act.action?_withProvider`).
-/

namespace Planwright

open Fallible

namespace Act

/-- The action that an instruction names, if it names one. -/
def action? : Act → Option String
  | .custom action _ => some action
  | _ => none

/-- Another provider does not change the action. -/
theorem action?_withProvider (id : String) (act : Act) :
    (act.withProvider id).action? = act.action? := by
  cases act <;> rfl

end Act

namespace Node

mutual

/-- The actions that a step names, those of the steps in its branches included. -/
def actions : Node → List String
  | .plain _ act => act.action?.toList
  | .branch _ _ ifTrue ifFalse => actionsAll ifTrue ++ actionsAll ifFalse

/-- The actions that several steps name. -/
def actionsAll : List Node → List String
  | [] => []
  | n :: ns => actions n ++ actionsAll ns

end

theorem mem_actionsAll_iff {nodes : List Node} {action : String} :
    action ∈ actionsAll nodes ↔ ∃ n ∈ nodes, action ∈ n.actions := by
  induction nodes with
  | nil => simp [actionsAll]
  | cons n rest ih => simp [actionsAll, ih]

/-- The built-in tags stand for no actions. -/
theorem onlyGives_decodeAct (op : String) (fields : Dict Value) (tag : ActTag) :
    OnlyGives (fun act => act.action? = none) (decodeAct op fields tag) := by
  cases tag with
  | apiCall => exact .map fun _ => rfl
  | parallelApiCalls => exact .bind fun _ _ => .bind fun _ _ => .ok rfl
  | batchApiCalls => exact .bind fun _ _ => .bind fun _ _ => .ok rfl
  | calculate => exact .bind fun _ _ => .bind fun _ _ => .ok rfl
  | formatResponse => exact .bind fun _ _ => .ok rfl
  | transform => exact .bind fun _ _ => .bind fun _ _ => .ok rfl
  | error =>
      refine .bind fun raw _ => ?_
      dsimp only
      split
      · exact .ok rfl
      · split
        · exact .ok rfl
        · exact .error _

/-- All actions that a step names are there. -/
def NamesOnly (hasAction : String → Bool) (n : Node) : Prop :=
  ∀ action ∈ n.actions, hasAction action = true

variable {hasAction : String → Bool}

/-- A step that is read names actions that are there if its branches do. -/
theorem onlyGives_decodeStep {branch : List Step → Except Failure (List Node)}
    (hbranch : ∀ steps, OnlyGives (fun nodes => ∀ n ∈ nodes, NamesOnly hasAction n) (branch steps))
    (s : Step) : OnlyGives (NamesOnly hasAction) (decodeStep hasAction branch s) := by
  unfold decodeStep
  dsimp only
  split
  · refine .bind fun raw _ => .bind fun inTrue htrue => .bind fun inFalse hfalse => .ok ?_
    intro action hmem
    rcases List.mem_append.1 hmem with hmem | hmem <;>
      obtain ⟨n, hn, hnamed⟩ := mem_actionsAll_iff.1 hmem
    · exact hbranch _ _ htrue n hn action hnamed
    · exact hbranch _ _ hfalse n hn action hnamed
  · refine .bind fun act hact => .ok ?_
    intro action hmem
    simp [actions, onlyGives_decodeAct _ _ _ _ hact] at hmem
  · split
    · next hthere =>
      refine .bind fun params _ => .ok ?_
      intro action hmem
      obtain rfl : action = s.op := by simpa [actions, Act.action?] using hmem
      exact (Bool.and_eq_true_iff.1 hthere).2
    · exact .error _

theorem onlyGives_decodeWithin (limit levels : Nat) (steps : List Step) :
    OnlyGives (fun nodes => ∀ n ∈ nodes, NamesOnly hasAction n)
      (decodeWithin hasAction limit levels steps) := by
  induction levels generalizing steps with
  | zero => exact .error _
  | succ levels ih =>
      intro nodes hread
      exact forall_of_mapM_eq_ok (fun s _ => onlyGives_decodeStep ih s) hread

/-- Every action that is named in an admitted recipe is there. -/
theorem hasAction_of_decode {limit : Nat} {steps : List Step} {nodes : List Node}
    (h : decode hasAction limit steps = .ok nodes) :
    ∀ action ∈ actionsAll nodes, hasAction action = true := by
  intro action hmem
  obtain ⟨n, hn, hnamed⟩ := mem_actionsAll_iff.1 hmem
  exact onlyGives_decodeWithin limit (limit + 1) steps nodes h n hn action hnamed

end Node

end Planwright
