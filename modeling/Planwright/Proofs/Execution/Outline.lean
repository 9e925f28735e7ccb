import Planwright.Proofs.Execution.History
import Planwright.Proofs.Execution.Place
import Planwright.Proofs.Instruction.Admission
import Mathlib.Data.List.Nodup

set_option autoImplicit false

/-!
# The outline of a recipe

The steps of a recipe in depth-first pre-order, each with its place: a conditional stands before the
steps of its branches, and those of `ifTrue` before those of `ifFalse`.  A recipe that is read has
exactly one outline (`exists_outline_of_decode`), in which no two steps have places of one text
(`Step.Outline.texts_nodup`), and whatever steps an execution begins are steps of this outline in
its order (`sublist_outline`).
-/

namespace Planwright

open Fallible

/-! ## Outlines of raw steps -/

namespace Step

/-- What the step has in common with every step. -/
def head (s : Step) : StepHead := ⟨s.op, s.assignTo, s.returns⟩

/-- The steps in a list, the first of them at an index, and in all their branches, in depth-first
pre-order and with their places. -/
inductive Outline : List (Nat × Bool) → Nat → List Step → List (Place × Step) → Prop where
  | nil (around : List (Nat × Bool)) (index : Nat) : Outline around index [] []
  | plain {around : List (Nat × Bool)} {index : Nat} {s : Step} {rest : List Step}
      {later : List (Place × Step)} (op : s.op ≠ Tag.conditional.name)
      (others : Outline around (index + 1) rest later) :
      Outline around index (s :: rest) ((⟨around, index⟩, s) :: later)
  | conditional {around : List (Nat × Bool)} {index : Nat} {s : Step}
      {rest ifTrue ifFalse : List Step} {condition : Value}
      {inTrue inFalse later : List (Place × Step)}
      (op : s.op = Tag.conditional.name)
      (branches : Node.rawConditional s.fields = .ok (condition, ifTrue, ifFalse))
      (ofTrue : Outline ((⟨around, index⟩ : Place).inside true) 0 ifTrue inTrue)
      (ofFalse : Outline ((⟨around, index⟩ : Place).inside false) 0 ifFalse inFalse)
      (others : Outline around (index + 1) rest later) :
      Outline around index (s :: rest) ((⟨around, index⟩, s) :: (inTrue ++ inFalse) ++ later)

end Step

/-! ## Outlines of decoded steps -/

namespace Node

mutual

/-- A step and the steps of its branches in depth-first pre-order, with their places. -/
def outline (place : Place) : Node → List (Place × StepHead)
  | .plain head _ => [(place, head)]
  | .branch head _ ifTrue ifFalse =>
    (place, head) :: (outlineAll (place.inside true) 0 ifTrue
      ++ outlineAll (place.inside false) 0 ifFalse)

/-- Steps, the first of them at an index, and those of their branches. -/
def outlineAll (around : List (Nat × Bool)) (index : Nat) : List Node → List (Place × StepHead)
  | [] => []
  | n :: rest => outline ⟨around, index⟩ n ++ outlineAll around (index + 1) rest

end

/-- A step that is read is plain and none that has branches, or a conditional with both its branches
read. -/
theorem decodeStep_cases {hasAction : String → Bool}
    {branch : List Step → Except Failure (List Node)} {s : Step} {n : Node}
    (h : decodeStep hasAction branch s = .ok n) :
    (s.op ≠ Tag.conditional.name ∧ ∃ act, n = .plain s.head act) ∨
    s.op = Tag.conditional.name ∧ ∃ condition ifTrue ifFalse inTrue inFalse,
      rawConditional s.fields = .ok (condition, ifTrue, ifFalse) ∧
      branch ifTrue = .ok inTrue ∧ branch ifFalse = .ok inFalse ∧
      n = .branch s.head condition inTrue inFalse := by
  by_cases hop : s.op = Tag.conditional.name
  · exact .inr ⟨hop, (decodeStep_eq_ok_iff_of_conditional hop).1 h⟩
  · exact .inl ⟨hop, exists_plain_of_decodeStep_eq_ok hop h⟩

/-- Steps that are read have an outline, and what is read of them has the same one. -/
theorem exists_outline_of_decodeWithin {hasAction : String → Bool} {limit levels : Nat}
    {steps : List Step} {nodes : List Node}
    (h : decodeWithin hasAction limit levels steps = .ok nodes) (around : List (Nat × Bool))
    (index : Nat) :
    ∃ listed, Step.Outline around index steps listed ∧
      listed.map (fun e => (e.1, e.2.head)) = outlineAll around index nodes := by
  induction levels generalizing steps nodes around index with
  | zero => cases h
  | succ levels ih =>
      induction steps generalizing nodes index with
      | nil =>
          obtain rfl := Except.ok.inj h
          exact ⟨[], .nil around index, rfl⟩
      | cons s rest ihrest =>
          rw [decodeWithin, List.mapM_cons, bind_eq_ok] at h
          obtain ⟨n, hstep, h⟩ := h
          obtain ⟨others, hothers, hnodes⟩ := bind_eq_ok.1 h
          obtain rfl := Except.ok.inj hnodes
          obtain ⟨later, hlater, hmap⟩ := ihrest hothers (index + 1)
          rcases decodeStep_cases hstep with ⟨hop, act, rfl⟩ |
            ⟨hop, condition, ifTrue, ifFalse, inTrue, inFalse, hraw, htrue, hfalse, rfl⟩
          · exact ⟨_, .plain hop hlater, by simp [outlineAll, outline, hmap]⟩
          · obtain ⟨ofTrue, houtTrue, hmapTrue⟩ :=
              ih htrue ((⟨around, index⟩ : Place).inside true) 0
            obtain ⟨ofFalse, houtFalse, hmapFalse⟩ :=
              ih hfalse ((⟨around, index⟩ : Place).inside false) 0
            exact ⟨_, .conditional hop hraw houtTrue houtFalse hlater, by
              simp [outlineAll, outline, hmap, hmapTrue, hmapFalse]⟩

end Node

/-! ## Places in an outline -/

namespace Step.Outline

variable {around : List (Nat × Bool)} {index : Nat} {steps : List Step}
  {listed : List (Place × Step)}

/-- Every step of an outline is one of the list, or stands in a branch of one. -/
theorem exists_covers (h : Outline around index steps listed) {e : Place × Step} (he : e ∈ listed) :
    ∃ j, index ≤ j ∧ Place.Covers ⟨around, j⟩ e.1 := by
  induction h with
  | nil => cases he
  | plain _ _ ih =>
      rcases List.mem_cons.1 he with rfl | he
      · exact ⟨_, Nat.le_refl _, .inl rfl⟩
      · obtain ⟨j, hj, hcovers⟩ := ih he
        exact ⟨j, by omega, hcovers⟩
  | conditional _ _ _ _ _ ihTrue ihFalse ih =>
      rcases List.mem_append.1 he with he | he
      · rcases List.mem_cons.1 he with rfl | he
        · exact ⟨_, Nat.le_refl _, .inl rfl⟩
        · rcases List.mem_append.1 he with he | he
          · obtain ⟨_, -, hcovers⟩ := ihTrue he
            exact ⟨_, Nat.le_refl _, .inr ⟨true, hcovers.around_prefix⟩⟩
          · obtain ⟨_, -, hcovers⟩ := ihFalse he
            exact ⟨_, Nat.le_refl _, .inr ⟨false, hcovers.around_prefix⟩⟩
      · obtain ⟨j, hj, hcovers⟩ := ih he
        exact ⟨j, by omega, hcovers⟩

/-- The steps of an outline of a branch stand in this branch. -/
theorem around_prefix (h : Outline around index steps listed) {e : Place × Step} (he : e ∈ listed) :
    around <+: e.1.around := by
  obtain ⟨j, -, hcovers⟩ := h.exists_covers he
  exact hcovers.around_prefix

/-- What a step covers does not stand among the steps after it. -/
theorem not_covers (h : Outline around (index + 1) steps listed) {e : Place × Step}
    (he : e ∈ listed) : ¬ Place.Covers ⟨around, index⟩ e.1 := by
  intro hcovers
  obtain ⟨j, hj, hother⟩ := h.exists_covers he
  have hindex := hcovers.index_inj hother
  omega

/-- No two steps of an outline stand at one place. -/
theorem places_nodup (h : Outline around index steps listed) : (listed.map (·.1)).Nodup := by
  induction h with
  | nil => exact List.nodup_nil
  | plain _ others ih =>
      refine List.nodup_cons.2 ⟨?_, ih⟩
      intro hmem
      obtain ⟨e, he, hplace⟩ := List.mem_map.1 hmem
      exact others.not_covers he (.inl hplace)
  | @conditional around index s _ _ _ _ inTrue inFalse _ _ _ ofTrue ofFalse others ihTrue ihFalse
      ih =>
      have htrue (e) (he : e ∈ inTrue) := ofTrue.around_prefix he
      have hfalse (e) (he : e ∈ inFalse) := ofFalse.around_prefix he
      have hinside (e) (he : e ∈ inTrue ++ inFalse) :
          ∃ b, Place.inside ⟨around, index⟩ b <+: e.1.around := by
        rcases List.mem_append.1 he with he | he
        · exact ⟨true, htrue e he⟩
        · exact ⟨false, hfalse e he⟩
      rw [List.map_append, List.map_cons, List.map_append, List.nodup_append, List.nodup_cons,
        List.nodup_append, ← List.map_append]
      refine ⟨⟨?itself, ihTrue, ihFalse, ?sides⟩, ih, ?others⟩
      case itself =>
        intro hmem
        obtain ⟨e, he, hplace⟩ := List.mem_map.1 hmem
        obtain ⟨b, hb⟩ := hinside e he
        rw [hplace] at hb
        exact Place.not_inside_prefix_around _ b hb
      case sides =>
        rintro _ htrueMem _ hfalseMem rfl
        obtain ⟨e, he, rfl⟩ := List.mem_map.1 htrueMem
        obtain ⟨u, hu, hplace⟩ := List.mem_map.1 hfalseMem
        have hother := hfalse u hu
        rw [hplace] at hother
        exact absurd (Place.inside_inj (htrue e he) hother rfl).2 (by decide)
      case others =>
        rintro _ hmem _ hlater rfl
        obtain ⟨u, hu, rfl⟩ := List.mem_map.1 hlater
        refine others.not_covers hu ?_
        rcases List.mem_cons.1 hmem with hplace | hmem
        · exact .inl hplace
        · obtain ⟨e, he, hplace⟩ := List.mem_map.1 hmem
          obtain ⟨b, hb⟩ := hinside e he
          rw [hplace] at hb
          exact .inr ⟨b, hb⟩

/-- No two steps of an outline have places of one text. -/
theorem texts_nodup (h : Outline around index steps listed) :
    (listed.map (·.1.text)).Nodup := by
  have hmap : listed.map (·.1.text) = (listed.map (·.1)).map Place.text := by simp
  rw [hmap]
  exact h.places_nodup.map Place.text_injective

end Step.Outline

/-! ## What is begun -/

namespace Surroundings

variable {s : Surroundings} {fallbacks : List String}

/-- A run begins steps of the outline, in its order. -/
theorem sublist_outline :
    (∀ n place st, (((s.visit fallbacks place n st).begun).map fun v => (v.place, v.head)).Sublist
      (Node.outline place n)) ∧
    ∀ ns around index st,
      ((Visit.begunAll (s.visits fallbacks around index ns st)).map
        fun v => (v.place, v.head)).Sublist (Node.outlineAll around index ns) := by
  refine Node.induction ?plain ?branch ?nil ?cons
  case plain =>
    intro head act place st
    exact List.Sublist.refl _
  case branch =>
    intro head condition ifTrue ifFalse htrue hfalse place st
    cases hside : st.context.condition s.config.unresolved condition with
    | error f =>
        rw [s.visit_branch_of_error fallbacks hside]
        exact (List.nil_sublist _).cons_cons _
    | ok b =>
        rw [s.visit_branch_of_ok fallbacks hside]
        refine List.Sublist.cons_cons _ ?_
        cases b with
        | true => exact (htrue _ _ _).trans (List.sublist_append_left _ _)
        | false => exact (hfalse _ _ _).trans (List.sublist_append_right _ _)
  case nil =>
    intro around index st
    exact List.Sublist.refl _
  case cons =>
    intro n rest hn hrest around index st
    rcases next_or_stop (s.runNode fallbacks ⟨around, index⟩ n st) with
      ⟨v, entries, st', hnext⟩ | hstop
    · rw [s.visits_of_next fallbacks hnext, Visit.begunAll, List.map_append]
      exact (hn _ _).append (hrest _ _ _)
    · rw [s.visits_of_stop fallbacks hstop, Visit.begunAll, List.map_append]
      exact (hn _ _).append (List.nil_sublist _)

/-- An execution of a recipe that is read begins steps of the outline of this recipe, in its
order. -/
theorem exists_outline_of_decode {w : World} {r : Recipe} {nodes : List Node}
    (h : Node.decode w.catalog.hasAction s.config.maxDepth r.steps = .ok nodes) :
    ∃ listed, Step.Outline [] 0 r.steps listed ∧
      ((Visit.begunAll (s.history w r)).map fun v => (v.place, v.head)).Sublist
        (listed.map fun e => (e.1, e.2.head)) := by
  obtain ⟨listed, houtline, hmap⟩ := Node.exists_outline_of_decodeWithin h [] 0
  refine ⟨listed, houtline, ?_⟩
  rw [hmap]
  rcases s.run_cases w r with ⟨f, -, -, hhistory⟩ | ⟨-, -, hhistory⟩ | ⟨_, hread, -, hhistory⟩
  · rw [hhistory]
    exact List.nil_sublist _
  · rw [hhistory]
    exact List.nil_sublist _
  · rw [hhistory]
    obtain rfl := Except.ok.inj (h.symm.trans hread)
    exact sublist_outline.2 _ _ _ _

end Surroundings

end Planwright
