import Planwright.Proofs.Execution.History

set_option autoImplicit false

/-!
# The steps that an execution begins

A history shows what became of the steps that were begun, but not the states in which they were.
`Begins` says which step a run of steps begins, at which place and in which state: the first one,
one behind a step that has let it go on, and one in the branch that a condition has led to.  The
trace has an entry for each of these steps and no other entries (`mem_entries_iff`).
-/

namespace Planwright

namespace Surroundings

/-- Running steps, the first of them at an index, begins a step at a place in a state. -/
inductive Begins (s : Surroundings) (fallbacks : List String) :
    List (Nat × Bool) → Nat → List Node → RunState → Place → Node → RunState → Prop where
  | first {around : List (Nat × Bool)} {index : Nat} {n : Node} {rest : List Node} {st : RunState} :
      Begins s fallbacks around index (n :: rest) st ⟨around, index⟩ n st
  /-- a step of the branch that the condition has led to -/
  | inside {around : List (Nat × Bool)} {index : Nat} {head : StepHead} {condition : Value}
      {ifTrue ifFalse rest : List Node} {st : RunState} {b : Bool} {place : Place} {n : Node}
      {st' : RunState} (side : st.context.condition s.config.unresolved condition = .ok b)
      (branch : Begins s fallbacks (Place.inside ⟨around, index⟩ b) 0
        (if b then ifTrue else ifFalse) st place n st') :
      Begins s fallbacks around index (.branch head condition ifTrue ifFalse :: rest) st place n st'
  /-- a step behind one that lets the steps behind it go on -/
  | later {around : List (Nat × Bool)} {index : Nat} {m : Node} {rest : List Node}
      {st after : RunState} {v : Value} {entries : List StepTrace} {place : Place} {n : Node}
      {st' : RunState}
      (next : s.runNode fallbacks ⟨around, index⟩ m st = (.ok (.next v), entries, after))
      (behind : Begins s fallbacks around (index + 1) rest after place n st') :
      Begins s fallbacks around index (m :: rest) st place n st'

/-- An execution begins a step at a place in a state. -/
def ExecutionBegins (s : Surroundings) (w : World) (r : Recipe) (place : Place) (n : Node)
    (st : RunState) : Prop :=
  ∃ nodes, Node.decode w.catalog.hasAction s.config.maxDepth r.steps = .ok nodes ∧
    s.isCut w.now = false ∧
      s.Begins (r.fallbackOrder.map (·.provider)) [] 0 nodes ⟨w, .empty⟩ place n st

variable (s : Surroundings) (fallbacks : List String)

/-- The entry of the trace that a step leaves when it is run at a place in a state: it stands before
those of the steps in its branch. -/
def traceOf? (place : Place) (n : Node) (st : RunState) : Option StepTrace :=
  (s.runNode fallbacks place n st).2.1.head?

/-- Some step that is begun has left an entry. -/
def LeftBy (around : List (Nat × Bool)) (index : Nat) (nodes : List Node) (st : RunState)
    (t : StepTrace) : Prop :=
  ∃ place n st', s.Begins fallbacks around index nodes st place n st' ∧
    s.traceOf? fallbacks place n st' = some t

variable {s fallbacks} {around : List (Nat × Bool)} {index : Nat} {st : RunState} {t : StepTrace}

theorem leftBy_cons_iff {n : Node} {rest : List Node} :
    s.LeftBy fallbacks around index (n :: rest) st t ↔
      s.LeftBy fallbacks around index [n] st t ∨
      ∃ v entries after,
        s.runNode fallbacks ⟨around, index⟩ n st = (.ok (.next v), entries, after) ∧
        s.LeftBy fallbacks around (index + 1) rest after t := by
  constructor
  · rintro ⟨place, m, st', hbegins, hentry⟩
    cases hbegins with
    | first => exact .inl ⟨_, _, _, .first, hentry⟩
    | inside side branch => exact .inl ⟨_, _, _, .inside side branch, hentry⟩
    | later next behind => exact .inr ⟨_, _, _, next, _, _, _, behind, hentry⟩
  · rintro (⟨place, m, st', hbegins, hentry⟩ |
      ⟨v, entries, after, hnext, place, m, st', hbegins, hentry⟩)
    · cases hbegins with
      | first => exact ⟨_, _, _, .first, hentry⟩
      | inside side branch => exact ⟨_, _, _, .inside side branch, hentry⟩
      | later next behind => cases behind
    · exact ⟨_, _, _, .later hnext hbegins, hentry⟩

theorem leftBy_plain_iff {head : StepHead} {act : Act} :
    s.LeftBy fallbacks around index [.plain head act] st t ↔
      s.traceOf? fallbacks ⟨around, index⟩ (.plain head act) st = some t := by
  constructor
  · rintro ⟨place, m, st', hbegins, hentry⟩
    cases hbegins with
    | first => exact hentry
    | later next behind => cases behind
  · exact fun hentry => ⟨_, _, _, .first, hentry⟩

theorem leftBy_branch_iff {head : StepHead} {condition : Value} {ifTrue ifFalse : List Node} :
    s.LeftBy fallbacks around index [.branch head condition ifTrue ifFalse] st t ↔
      s.traceOf? fallbacks ⟨around, index⟩ (.branch head condition ifTrue ifFalse) st = some t ∨
      ∃ b, st.context.condition s.config.unresolved condition = .ok b ∧
        s.LeftBy fallbacks (Place.inside ⟨around, index⟩ b) 0 (if b then ifTrue else ifFalse) st
          t := by
  constructor
  · rintro ⟨place, m, st', hbegins, hentry⟩
    cases hbegins with
    | first => exact .inl hentry
    | inside side branch => exact .inr ⟨_, side, _, _, _, branch, hentry⟩
    | later next behind => cases behind
  · rintro (hentry | ⟨b, hside, place, m, st', hbegins, hentry⟩)
    · exact ⟨_, _, _, .first, hentry⟩
    · exact ⟨_, _, _, .inside hside hbegins, hentry⟩

variable (s fallbacks)

/-- The entries that a run of steps leaves are those of the steps that it begins. -/
theorem mem_entries_iff :
    (∀ n place st t, t ∈ (s.runNode fallbacks place n st).2.1 ↔
      s.LeftBy fallbacks place.around place.index [n] st t) ∧
    ∀ nodes around index last st t, t ∈ (s.runNodes fallbacks around index last nodes st).2.1 ↔
      s.LeftBy fallbacks around index nodes st t := by
  refine Node.induction ?plain ?branch ?nil ?cons
  case plain =>
    intro head act place st t
    rw [leftBy_plain_iff]
    have hone : ∃ u, (s.runNode fallbacks place (.plain head act) st).2.1 = [u] := ⟨_, rfl⟩
    obtain ⟨u, hu⟩ := hone
    rw [traceOf?, hu, List.mem_singleton, List.head?_cons, Option.some.injEq, eq_comm]
  case branch =>
    intro head condition ifTrue ifFalse htrue hfalse place st t
    have hentries (ran : Ran) : ∃ u, (RunState.settleBranch st.world.now place head ran).2.1
        = u :: ran.2.1 := ⟨_, rfl⟩
    rw [leftBy_branch_iff, traceOf?]
    cases hside : st.context.condition s.config.unresolved condition with
    | error f =>
        rw [s.runNode_branch_of_error fallbacks hside]
        obtain ⟨u, hu⟩ := hentries (.error (.failed f), [], st)
        rw [hu]
        simp [eq_comm]
    | ok b =>
        rw [s.runNode_branch_of_ok fallbacks hside]
        obtain ⟨u, hu⟩ := hentries
          (s.runNodes fallbacks (place.inside b) 0 .null (if b then ifTrue else ifFalse) st)
        have hbranch : t ∈ (s.runNodes fallbacks (place.inside b) 0 .null
              (if b then ifTrue else ifFalse) st).2.1 ↔
            s.LeftBy fallbacks (place.inside b) 0 (if b then ifTrue else ifFalse) st t := by
          cases b with
          | true => exact htrue _ _ _ _ _
          | false => exact hfalse _ _ _ _ _
        rw [hu, List.mem_cons, hbranch]
        simp [eq_comm]
  case nil =>
    intro around index last st t
    constructor
    · exact fun h => absurd h List.not_mem_nil
    · rintro ⟨_, _, _, hbegins, -⟩
      cases hbegins
  case cons =>
    intro n rest hn hrest around index last st t
    rw [leftBy_cons_iff, ← hn ⟨around, index⟩]
    rcases next_or_stop (s.runNode fallbacks ⟨around, index⟩ n st) with
      ⟨v, entries, after, hnext⟩ | hstop
    · have hbehind : (∃ v' entries' after', s.runNode fallbacks ⟨around, index⟩ n st
            = (.ok (.next v'), entries', after') ∧
              s.LeftBy fallbacks around (index + 1) rest after' t) ↔
          s.LeftBy fallbacks around (index + 1) rest after t := by
        constructor
        · rintro ⟨v', entries', after', hnext', hleft⟩
          rw [hnext] at hnext'
          cases hnext'
          exact hleft
        · exact fun hleft => ⟨v, entries, after, hnext, hleft⟩
      rw [s.runNodes_of_next fallbacks hnext, hbehind, hnext, List.mem_append, hrest]
    · rw [s.runNodes_of_stop fallbacks hstop]
      constructor
      · exact .inl
      · rintro (hmem | ⟨v, entries, after, hnext, -⟩)
        · exact hmem
        · exact absurd (congrArg Prod.fst hnext) (hstop v)

/-- The entries in the trace of an execution are those of the steps that it begins. -/
theorem mem_steps_iff (w : World) (r : Recipe) (t : StepTrace) :
    t ∈ (s.execute w r).1.steps ↔
      ∃ place n st, s.ExecutionBegins w r place n st ∧
        s.traceOf? (r.fallbackOrder.map (·.provider)) place n st = some t := by
  have hsteps : (s.execute w r).1.steps = (s.run w r).2.1 := rfl
  rw [hsteps, run]
  cases hdecode : Node.decode w.catalog.hasAction s.config.maxDepth r.steps with
  | error f =>
      constructor
      · exact fun h => absurd h List.not_mem_nil
      · rintro ⟨_, _, _, ⟨nodes, hnodes, -, -⟩, -⟩
        cases hdecode.symm.trans hnodes
  | ok nodes =>
      cases hcut : s.isCut w.now with
      | true =>
          constructor
          · exact fun h => absurd h List.not_mem_nil
          · rintro ⟨_, _, _, ⟨_, -, hgoes, -⟩, -⟩
            cases hcut.symm.trans hgoes
      | false =>
          refine ((s.mem_entries_iff _).2 nodes [] 0 .null ⟨w, .empty⟩ t).trans ?_
          constructor
          · rintro ⟨place, n, st, hbegins, hentry⟩
            exact ⟨place, n, st, ⟨nodes, hdecode, hcut, hbegins⟩, hentry⟩
          · rintro ⟨place, n, st, ⟨others, hothers, -, hbegins⟩, hentry⟩
            obtain rfl := Except.ok.inj (hdecode.symm.trans hothers)
            exact ⟨place, n, st, hbegins, hentry⟩

end Surroundings

end Planwright
