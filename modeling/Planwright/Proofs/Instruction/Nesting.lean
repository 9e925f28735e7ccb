import Planwright.Proofs.Execution.History
import Planwright.Proofs.Instruction.Admission
import Mathlib.Order.Bounds.Basic

set_option autoImplicit false

/-!
# How deeply conditionals are nested

Steps are read only if their conditionals are not nested more deeply than a limit.  The reader never
measures this; it counts down one level at each conditional and refuses when no level is left.  It
refuses exactly what is nested too deeply: what is read under one limit is what is read under any
greater one, provided that no path leads through more conditionals than the limit says
(`nesting_limit_exact`).
-/

namespace Planwright.Node

open Fallible

/-! ## Paths -/

/-- A path from some steps inwards through a number of conditionals: each one is a step in the
branch of the one before that the path has entered. -/
inductive Path : List Node → Nat → Prop where
  | stop (nodes : List Node) : Path nodes 0
  | enter {nodes ifTrue ifFalse : List Node} {head : StepHead} {condition : Value} {count : Nat}
      (mem : .branch head condition ifTrue ifFalse ∈ nodes) (side : Bool)
      (inner : Path (if side then ifTrue else ifFalse) count) : Path nodes (count + 1)

theorem Path.mono {nodes others : List Node} {count : Nat} (h : Path nodes count)
    (hsub : nodes ⊆ others) : Path others count := by
  cases h with
  | stop => exact .stop others
  | enter mem side inner => exact .enter (hsub mem) side inner

theorem nestingAll_le_iff {nodes : List Node} {k : Nat} :
    nestingAll nodes ≤ k ↔ ∀ n ∈ nodes, nesting n ≤ k := by
  induction nodes with
  | nil => exact iff_of_true (Nat.zero_le k) (List.forall_mem_nil _)
  | cons n rest ih => rw [nestingAll, Nat.max_le, ih, List.forall_mem_cons]

/-- No path leads through more conditionals than are nested. -/
theorem Path.le_nestingAll {nodes : List Node} {count : Nat} (h : Path nodes count) :
    count ≤ nestingAll nodes := by
  induction h with
  | stop => exact Nat.zero_le _
  | @enter nodes ifTrue ifFalse head condition count mem side _ ih =>
      have hbranch : nesting (.branch head condition ifTrue ifFalse) ≤ nestingAll nodes :=
        nestingAll_le_iff.1 le_rfl _ mem
      rw [nesting] at hbranch
      have hside : nestingAll (if side then ifTrue else ifFalse)
          ≤ max (nestingAll ifTrue) (nestingAll ifFalse) := by
        cases side with
        | true => exact Nat.le_max_left _ _
        | false => exact Nat.le_max_right _ _
      omega

/-- Some path leads through as many conditionals as are nested. -/
theorem path_nesting :
    (∀ n, Path [n] (nesting n)) ∧ ∀ nodes, Path nodes (nestingAll nodes) := by
  refine Node.induction ?plain ?branch ?nil ?cons
  case plain => exact fun head act => .stop _
  case branch =>
    intro head condition ifTrue ifFalse htrue hfalse
    rw [nesting]
    rcases le_total (nestingAll ifFalse) (nestingAll ifTrue) with hle | hle
    · rw [max_eq_left hle]
      exact .enter List.mem_cons_self true htrue
    · rw [max_eq_right hle]
      exact .enter List.mem_cons_self false hfalse
  case nil => exact .stop []
  case cons =>
    intro n rest hn hrest
    rw [nestingAll]
    rcases le_total (nestingAll rest) (nesting n) with hle | hle
    · rw [max_eq_left hle]
      exact hn.mono (List.cons_subset_cons n (List.nil_subset rest))
    · rw [max_eq_right hle]
      exact hrest.mono (List.subset_cons_self n rest)

/-- The nesting of steps is the greatest number of conditionals on a path. -/
theorem isGreatest_nestingAll (nodes : List Node) :
    IsGreatest {count | Path nodes count} (nestingAll nodes) :=
  ⟨path_nesting.2 nodes, fun _ h => h.le_nestingAll⟩

/-! ## Reading within a limit -/

variable {hasAction : String → Bool}

/-- If lists of steps are read by one reader just as by another, but only if they are not nested too
deeply, then so are steps with such lists for branches, which are nested one level deeper. -/
theorem decodeStep_eq_ok_iff_and {branch branch' : List Step → Except Failure (List Node)} {k : Nat}
    (h : ∀ steps nodes, branch steps = .ok nodes ↔ branch' steps = .ok nodes ∧ nestingAll nodes < k)
    (s : Step) (n : Node) :
    decodeStep hasAction branch s = .ok n ↔
      decodeStep hasAction branch' s = .ok n ∧ nesting n ≤ k := by
  by_cases hop : s.op = Tag.conditional.name
  · rw [decodeStep_eq_ok_iff_of_conditional hop, decodeStep_eq_ok_iff_of_conditional hop]
    constructor
    · rintro ⟨condition, ifTrue, ifFalse, inTrue, inFalse, hraw, htrue, hfalse, rfl⟩
      obtain ⟨htrue, hlt⟩ := (h _ _).1 htrue
      obtain ⟨hfalse, hlt'⟩ := (h _ _).1 hfalse
      refine ⟨⟨condition, ifTrue, ifFalse, inTrue, inFalse, hraw, htrue, hfalse, rfl⟩, ?_⟩
      rw [nesting]
      omega
    · rintro ⟨⟨condition, ifTrue, ifFalse, inTrue, inFalse, hraw, htrue, hfalse, rfl⟩, hle⟩
      rw [nesting] at hle
      exact ⟨condition, ifTrue, ifFalse, inTrue, inFalse, hraw, (h _ _).2 ⟨htrue, by omega⟩,
        (h _ _).2 ⟨hfalse, by omega⟩, rfl⟩
  · rw [decodeStep_congr_of_ne_conditional hasAction branch branch' hop]
    refine ⟨fun hread => ⟨hread, ?_⟩, And.left⟩
    obtain ⟨act, rfl⟩ := exists_plain_of_decodeStep_eq_ok hop hread
    exact Nat.zero_le k

/-- What is read with some levels left is what is read with more of them and takes no more than
those.  The limits only word the refusals. -/
theorem decodeWithin_eq_ok_iff {limit limit' levels levels' : Nat} (h : levels ≤ levels')
    (steps : List Step) (nodes : List Node) :
    decodeWithin hasAction limit levels steps = .ok nodes ↔
      decodeWithin hasAction limit' levels' steps = .ok nodes ∧ nestingAll nodes < levels := by
  induction levels generalizing levels' steps nodes with
  | zero => exact iff_of_false nofun fun hread => Nat.not_lt_zero _ hread.2
  | succ levels ih =>
      obtain ⟨more, rfl⟩ : ∃ more, levels' = more + 1 := ⟨levels' - 1, by omega⟩
      rw [Nat.lt_succ_iff, nestingAll_le_iff]
      exact mapM_eq_ok_iff_and fun s _ =>
        decodeStep_eq_ok_iff_and (ih (Nat.le_of_succ_le_succ h)) s

/-- **The limit is exact.**  Of two limits the smaller one admits, of what the greater one admits
and with the same result, exactly the steps in which no path leads through more conditionals than it
says.  A conditional counts as one whether or not there is something in its branches. -/
theorem nesting_limit_exact (steps : List Step) (nodes : List Node) {n m : Nat} (h : n ≤ m) :
    (decode hasAction n steps = .ok nodes ↔
      decode hasAction m steps = .ok nodes ∧ nestingAll nodes ≤ n) ∧
    IsGreatest {count | Path nodes count} (nestingAll nodes) ∧
    ∀ (s : Step) (condition : Value), s.op = Tag.conditional.name →
      rawConditional s.fields = .ok (condition, [], []) →
        ((∃ read, decode hasAction n [s] = .ok read) ↔ 1 ≤ n) := by
  refine ⟨?exact, isGreatest_nestingAll nodes, ?empty⟩
  case exact =>
    rw [← Nat.lt_succ_iff]
    exact decodeWithin_eq_ok_iff (Nat.succ_le_succ h) steps nodes
  case empty =>
    intro s condition hop hraw
    have hread : decode hasAction (n + 1) [s]
        = .ok [.branch ⟨s.op, s.assignTo, s.returns⟩ condition [] []] := by
      have hstep : decodeStep hasAction (decodeWithin hasAction (n + 1) (n + 1)) s
          = .ok (.branch ⟨s.op, s.assignTo, s.returns⟩ condition [] []) :=
        (decodeStep_eq_ok_iff_of_conditional hop).2
          ⟨condition, [], [], [], [], hraw, rfl, rfl, rfl⟩
      rw [decode, decodeWithin, List.mapM_cons, hstep]
      rfl
    have hnesting (nodes : List Node) : decode hasAction n [s] = .ok nodes ↔
        decode hasAction (n + 1) [s] = .ok nodes ∧ nestingAll nodes < n + 1 :=
      decodeWithin_eq_ok_iff (Nat.le_succ _) [s] nodes
    simp only [hnesting, hread, Except.ok.injEq]
    constructor
    · rintro ⟨_, rfl, hlt⟩
      exact Nat.lt_succ_iff.1 hlt
    · exact fun hn => ⟨_, rfl, Nat.lt_succ_iff.2 hn⟩

/-- Three conditionals, each in a branch of the one before, the innermost without branches. -/
def threefold : Step :=
  ⟨"conditional", none, false,
    [("condition", .bool true),
      ("if_false", .list
        [.object
          [("condition", .bool true),
            ("ifTrue", .list
              [.object [("condition", .bool true), ("type", .text "conditional")]]),
            ("type", .text "conditional")]])]⟩

/-- What is read of them. -/
def threefoldRead : List Node :=
  let head : StepHead := ⟨"conditional", none, false⟩
  [.branch head (.bool true) [] [.branch head (.bool true) [.branch head (.bool true) [] []] []]]

/-- Three conditionals are read with three levels and refused with two. -/
theorem nesting_limit_exact_threefold :
    2 ≤ 3 ∧ decode (fun _ => false) 3 [threefold] = .ok threefoldRead ∧
      decode (fun _ => false) 2 [threefold] ≠ .ok threefoldRead := by
  refine ⟨by decide, rfl, fun h => ?_⟩
  have hle := ((nesting_limit_exact [threefold] threefoldRead (by decide : 2 ≤ 3)).1.1 h).2
  have hnesting : nestingAll threefoldRead = 3 := rfl
  omega

end Planwright.Node
