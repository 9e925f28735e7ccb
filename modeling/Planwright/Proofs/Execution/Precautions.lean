import Planwright.Proofs.Execution.Joining
import Planwright.Proofs.Instruction.Actions

set_option autoImplicit false

/-!
# Precautions

The interpreter is prepared for what should never happen: that it is to carry out a conditional as
if it were a plain instruction, that the action of a step is not there any more although it was when
the step was read, and that the place of a call in parallel still holds a stand-in when the result
of the step is made.  A *watched* execution takes these precautions and notes each one that is met.

It is not alone.  Before an instruction is carried out others may change the world, a fallback that
is tried included; they may meddle while it is carried out, so that it comes to something else; the
tasks of calls in parallel end in any order; and a transport may panic.  Where this happens outside
of calls in parallel the execution is gone with it and nothing is left to watch.  As long as nobody
installs or uninstalls anything and no transport panics, no precaution is ever met; and as long as
others do nothing, the watched execution is the execution, whatever the order in which tasks end
(`precautions_unmet`).
-/

namespace Planwright

open Fallible
open Traffic (Move Moves)

/-! ## What is installed stays so -/

namespace World

/-- What is installed: the capabilities, and the actions that they have brought along. -/
def installed (w : World) : Dict InstalledCapability × Dict Action :=
  (w.catalog.capabilities, w.catalog.actions)

variable {w w' : World}

theorem installed_tryAdmit (w : World) (id : String) :
    (w.tryAdmit id).2.installed = w.installed := by
  unfold tryAdmit
  split <;> rfl

theorem installed_launch (w : World) (network : Network) (e : ProviderEntry) (spec : CallSpec)
    (timeout : Nat) : (w.launch network e spec timeout).2.installed = w.installed := by
  have hlaunched := w.launched network e spec timeout
  generalize w.launch network e spec timeout = result at hlaunched ⊢
  cases hlaunched with
  | fault _ => rfl
  | full _ => exact installed_tryAdmit w e.id
  | sent _ _ _ => exact installed_tryAdmit w e.id

end World

namespace Traffic

variable {t t' : Traffic}

theorem installed_of_move (h : Move t t') : t'.world.installed = t.world.installed := by
  cases h with
  | @refuse _ network e spec timeout f w _ launched =>
      have hkept := t.world.installed_launch network e spec timeout
      rwa [launched] at hkept
  | @send _ network e spec timeout flight w request _ launched _ =>
      have hkept := t.world.installed_launch network e spec timeout
      rwa [launched] at hkept
  | land w before behind flying => rfl
  | lose w before behind flying => rfl
  | invoke action params => rfl
  | setClock now => rfl

theorem installed_of_moves (h : Moves t t') : t'.world.installed = t.world.installed := by
  induction h with
  | refl => rfl
  | tail _ hlast ih => exact (installed_of_move hlast).trans ih

end Traffic

/-- An execution installs nothing and uninstalls nothing. -/
theorem World.Passes.installed {w w' : World} (h : World.Passes w w') :
    w'.installed = w.installed := by
  obtain ⟨new, -, hmoves⟩ := h.moves
  exact Traffic.installed_of_moves (hmoves [])

/-! ## Precautions -/

/-- What the interpreter is prepared for although it should never happen. -/
inductive Precaution where
  /-- a conditional is to be carried out like a plain instruction -/
  | conditional
  /-- the action of a step is not there any more -/
  | missing (action : String)
  /-- a place holds a stand-in when the result of calls in parallel is made -/
  | standIn (held : StandIn)
  deriving DecidableEq, Repr, Inhabited

/-- The wording of a precaution. -/
def Precaution.failure : Precaution → Failure
  | .conditional => .plain .unknown "conditional steps are run by the step loop"
  | .missing action => .unknownOperation ("custom action '" ++ action ++ "' is not registered")
  | .standIn held => held.failure

/-- What a step says is to be done. -/
inductive Instruction where
  | act (a : Act)
  | conditional (condition : Value) (ifTrue ifFalse : List Node)

namespace Instruction

/-- Whether another provider may take over. -/
def usesProviders : Instruction → Bool
  | .act a => a.usesProviders
  | .conditional _ _ _ => false

/-- The same instruction with every call addressed to one provider. -/
def withProvider (id : String) : Instruction → Instruction
  | .act a => .act (a.withProvider id)
  | instruction => instruction

end Instruction

/-- The precaution that an instruction meets when it is carried out with these actions. -/
def Act.missing (k : Catalog) : Act → List Precaution
  | .custom action _ => if (k.action? action).isNone then [.missing action] else []
  | _ => []

/-- An action that is missing fails with the wording of the precaution. -/
theorem Surroundings.invoke_of_missing (s : Surroundings) (ctx : Context) {w : World}
    {action : String} (params : Value) (h : w.catalog.action? action = none) :
    s.invoke ctx w action params
      = (.error (.failed (Precaution.missing action).failure), w) := by
  simp only [invoke, h, Precaution.failure]

/-! ## Watched executions -/

/-- What an execution does not decide itself. -/
structure Chance where
  /-- what others do to the world before the instruction that is carried out at a turn -/
  others : Nat → World → World
  /-- what others make of this instruction by acting while it is carried out: what it comes to, and
  the world that is left -/
  meanwhile : Nat → Ended Performed × World → Ended Performed × World
  /-- the position of the task that is joined next, by the turn and the number of tasks left -/
  next : Nat → Nat → Nat
  /-- the cause with which the transport of a call in parallel panics, by the turn and the index of
  the call -/
  panics : Nat → Nat → Option String

namespace Chance

/-- Nobody installs or uninstalls anything, and no transport panics. -/
structure Harmless (c : Chance) : Prop where
  others : ∀ n w, (c.others n w).installed = w.installed
  meanwhile : ∀ n ran, (c.meanwhile n ran).2.installed = ran.2.installed
  panics : ∀ n i, c.panics n i = none

/-- Others do nothing. -/
structure Alone (c : Chance) : Prop where
  others : ∀ n w, c.others n w = w
  meanwhile : ∀ n ran, c.meanwhile n ran = ran

end Chance

/-- The state of a watched execution. -/
structure Watch where
  state : RunState
  /-- how many turns others have had -/
  turns : Nat
  /-- the precautions met so far -/
  met : List Precaution

namespace Watch

/-- Others have their turn. -/
def yield (c : Chance) (t : Watch) : Watch :=
  { t with
    state := { t.state with world := c.others t.turns t.state.world }
    turns := t.turns + 1 }

/-- The world has changed, and precautions were met. -/
def after (t : Watch) (w : World) (met : List Precaution) : Watch :=
  { t with state := { t.state with world := w }, met := t.met ++ met }

/-- Ends a step that was begun at an instant; `entries` are those of the steps in its branch. -/
def settle (started : Nat) (place : Place) (head : StepHead)
    (ended : Ended (Flow × Option String × StepStatus)) (entries : List StepTrace) (t : Watch) :
    Ended Flow × List StepTrace × Watch :=
  let (flow, entry, state) := RunState.settle started place head ended t.state
  (flow, entry :: entries, { t with state := state })

end Watch

namespace Surroundings

/-- Carries out an instruction. -/
def watchPerform (s : Surroundings) (c : Chance) (t : Watch) :
    Instruction → Ended Performed × Watch
  | .conditional _ _ _ =>
    (.error (.failed Precaution.conditional.failure), t.after t.state.world [.conditional])
  | .act (.parallel calls) =>
    let (ended, w, standIns) := s.joinParallel t.state.context (c.next t.turns) (c.panics t.turns)
      t.state.world calls
    let (ended, w) := c.meanwhile t.turns (ended.map fun v => (v, none), w)
    (ended, t.after w (standIns.map .standIn))
  | .act act =>
    let (ended, w) := c.meanwhile t.turns (s.perform t.state.context t.state.world act)
    (ended, t.after w (act.missing t.state.world.catalog))

/-- Tries fallbacks in their order until one succeeds. -/
def watchFallbacks (s : Surroundings) (c : Chance) (instruction : Instruction) (first : Failure) :
    Watch → List String → Ended (Performed × StepStatus) × Watch
  | t, [] => (.error (.failed first), t)
  | t, provider :: rest =>
    match s.watchPerform c (t.yield c) (instruction.withProvider provider) with
    | (.ok (v, _), t) => (.ok ((v, some provider), .completedViaFallback), t)
    | (.error .interrupted, t) => (.error .interrupted, t)
    | (.error (.failed _), t) => s.watchFallbacks c instruction first t rest

/-- Carries out an instruction, with fallbacks where they may help. -/
def watchAttempt (s : Surroundings) (c : Chance) (fallbacks : List String) (t : Watch)
    (instruction : Instruction) : Ended (Performed × StepStatus) × Watch :=
  match s.watchPerform c (t.yield c) instruction with
  | (.ok p, t) => (.ok (p, .completed), t)
  | (.error .interrupted, t) => (.error .interrupted, t)
  | (.error (.failed f), t) =>
    if instruction.usesProviders && f.allowsFallback then
      s.watchFallbacks c instruction f t fallbacks
    else (.error (.failed f), t)

mutual

/-- Runs the step at a place. -/
def watchNode (s : Surroundings) (c : Chance) (fallbacks : List String) (place : Place) :
    Node → Watch → Ended Flow × List StepTrace × Watch
  | .plain head act, t =>
    let (ended, u) := s.watchAttempt c fallbacks t (.act act)
    u.settle t.state.world.now place head (ended.map fun p => (.next p.1.1, p.1.2, p.2)) []
  | .branch head condition ifTrue ifFalse, t =>
    let ran : Ended Flow × List StepTrace × Watch :=
      match t.state.context.condition s.config.unresolved condition with
      | .error f => (.error (.failed f), [], t)
      | .ok true => watchNodes s c fallbacks (place.inside true) 0 .null ifTrue t
      | .ok false => watchNodes s c fallbacks (place.inside false) 0 .null ifFalse t
    ran.2.2.settle t.state.world.now place head (ran.1.map fun flow => (flow, none, .completed))
      ran.2.1

/-- Runs steps in order, the first of them at an index. -/
def watchNodes (s : Surroundings) (c : Chance) (fallbacks : List String)
    (around : List (Nat × Bool)) (index : Nat) (last : Value) :
    List Node → Watch → Ended Flow × List StepTrace × Watch
  | [], t => (.ok (.next last), [], t)
  | n :: rest, t =>
    match watchNode s c fallbacks ⟨around, index⟩ n t with
    | (.ok (.next v), entries, t) =>
      let (ended, more, t) := watchNodes s c fallbacks around (index + 1) v rest t
      (ended, entries ++ more, t)
    | ran => ran

end

/-- What becomes of a recipe when its execution is watched. -/
def watch (s : Surroundings) (c : Chance) (w : World) (r : Recipe) :
    Ended Flow × List StepTrace × Watch :=
  let t : Watch := ⟨⟨w, .empty⟩, 0, []⟩
  match Node.decode w.catalog.hasAction s.config.maxDepth r.steps with
  | .error f => (.error (.failed f), [], t)
  | .ok nodes =>
    if s.isCut w.now then (.error .interrupted, [], t)
    else s.watchNodes c (r.fallbackOrder.map (·.provider)) [] 0 .null nodes t

variable (s : Surroundings) {c : Chance}

/-- Watching an instruction does not change what it does. -/
theorem watchPerform_act (hpanics : ∀ n i, c.panics n i = none) {t : Watch} {act : Act}
    {ran : Ended Performed × World}
    (hran : c.meanwhile t.turns (s.perform t.state.context t.state.world act) = ran) :
    s.watchPerform c t (.act act)
      = (ran.1, t.after ran.2 (act.missing t.state.world.catalog)) := by
  subst hran
  cases act with
  | parallel calls =>
      rw [watchPerform, joinParallel_eq s _ _ (hpanics t.turns), perform]
      rcases s.callParallel t.state.context t.state.world calls with ⟨stop | v, w⟩ <;> rfl
  | _ => rfl

theorem watchNode_branch_of_error {fallbacks : List String} {place : Place} {head : StepHead}
    {condition : Value} {ifTrue ifFalse : List Node} {t : Watch} {f : Failure}
    (h : t.state.context.condition s.config.unresolved condition = .error f) :
    s.watchNode c fallbacks place (.branch head condition ifTrue ifFalse) t
      = t.settle t.state.world.now place head (.error (.failed f)) [] := by
  rw [watchNode, h]
  rfl

theorem watchNode_branch_of_ok {fallbacks : List String} {place : Place} {head : StepHead}
    {condition : Value} {ifTrue ifFalse : List Node} {t : Watch} {b : Bool}
    {ran : Ended Flow × List StepTrace × Watch}
    (h : t.state.context.condition s.config.unresolved condition = .ok b)
    (hran : s.watchNodes c fallbacks (place.inside b) 0 .null (if b then ifTrue else ifFalse) t
      = ran) :
    s.watchNode c fallbacks place (.branch head condition ifTrue ifFalse) t
      = ran.2.2.settle t.state.world.now place head
          (ran.1.map fun flow => (flow, none, .completed)) ran.2.1 := by
  rw [watchNode, h]
  subst hran
  cases b <;> rfl

end Surroundings

/-! ## Nothing is met -/

theorem World.hasAction_of_installed {w w' : World} (h : w'.installed = w.installed)
    (action : String) : w'.catalog.hasAction action = w.catalog.hasAction action :=
  congrArg (fun k : Dict InstalledCapability × Dict Action => k.2.contains action) h

theorem Act.missing_eq_nil {k : Catalog} {act : Act}
    (h : ∀ action ∈ act.action?, k.hasAction action = true) : act.missing k = [] := by
  cases act with
  | custom action params =>
      have hthere : (k.actions.get? action).isSome = true := h action rfl
      rw [missing, Catalog.action?, if_neg]
      simp [Option.isSome_iff_ne_none.1 hthere]
  | _ => rfl

/-- Nothing was met, and what is installed is what was installed in a world. -/
structure Watch.Clear (w : World) (t : Watch) : Prop where
  installed : t.state.world.installed = w.installed
  met : t.met = []

namespace Watch.Clear

variable {w : World} {t : Watch}

theorem yield {c : Chance} (hc : c.Harmless) (h : t.Clear w) : (t.yield c).Clear w where
  installed := (hc.others _ _).trans h.installed
  met := h.met

theorem settle (h : t.Clear w) (started : Nat) (place : Place) (head : StepHead)
    (ended : Ended (Flow × Option String × StepStatus)) (entries : List StepTrace) :
    (t.settle started place head ended entries).2.2.Clear w where
  installed := by
    rw [Watch.settle]
    dsimp only
    rw [Surroundings.world_settle]
    exact h.installed
  met := h.met

end Watch.Clear

namespace Surroundings

variable (s : Surroundings) {c : Chance} (hc : c.Harmless) {w : World}

include hc

theorem clear_watchPerform {t : Watch} (h : t.Clear w) (act : Act)
    (hthere : ∀ action ∈ act.action?, w.catalog.hasAction action = true) :
    (s.watchPerform c (t.yield c) (.act act)).2.Clear w := by
  have hyield := h.yield hc
  -- The action is looked up in the world that others have left, not in the one in which the recipe
  -- was read.
  have hmissing : act.missing (t.yield c).state.world.catalog = [] := by
    apply Act.missing_eq_nil
    intro action hmem
    rw [World.hasAction_of_installed hyield.installed]
    exact hthere action hmem
  rw [s.watchPerform_act hc.panics rfl, hmissing]
  have hperform :=
    (s.passes_perform (t.yield c).state.context (t.yield c).state.world act).installed
  exact ⟨(hc.meanwhile _ _).trans (hperform.trans hyield.installed),
    (List.append_nil _).trans hyield.met⟩

theorem clear_watchFallbacks {t : Watch} (h : t.Clear w) (act : Act)
    (hthere : ∀ action ∈ act.action?, w.catalog.hasAction action = true) (first : Failure)
    (providers : List String) :
    (s.watchFallbacks c (.act act) first t providers).2.Clear w := by
  induction providers generalizing t with
  | nil => exact h
  | cons provider rest ih =>
      have hperform := s.clear_watchPerform hc h (act.withProvider provider)
        (by rwa [Act.action?_withProvider])
      rw [watchFallbacks, Instruction.withProvider]
      generalize s.watchPerform c (t.yield c) (.act (act.withProvider provider)) = watched
        at hperform ⊢
      rcases watched with ⟨(f | _) | p, u⟩
      · exact ih hperform
      · exact hperform
      · exact hperform

theorem clear_watchAttempt {t : Watch} (h : t.Clear w) (fallbacks : List String) (act : Act)
    (hthere : ∀ action ∈ act.action?, w.catalog.hasAction action = true) :
    (s.watchAttempt c fallbacks t (.act act)).2.Clear w := by
  have hperform := s.clear_watchPerform hc h act hthere
  rw [watchAttempt]
  generalize s.watchPerform c (t.yield c) (.act act) = watched at hperform ⊢
  rcases watched with ⟨(f | _) | p, u⟩
  · dsimp only
    split
    · exact s.clear_watchFallbacks hc hperform act hthere f fallbacks
    · exact hperform
  · exact hperform
  · exact hperform

/-- Steps that name only actions that are there meet no precaution. -/
theorem clear_watchNodes (fallbacks : List String) :
    (∀ n place (t : Watch), t.Clear w →
      (∀ action ∈ Node.actions n, w.catalog.hasAction action = true) →
        (s.watchNode c fallbacks place n t).2.2.Clear w) ∧
    ∀ ns around index last (t : Watch), t.Clear w →
      (∀ action ∈ Node.actionsAll ns, w.catalog.hasAction action = true) →
        (s.watchNodes c fallbacks around index last ns t).2.2.Clear w := by
  refine Node.induction ?plain ?branch ?nil ?cons
  case plain =>
    intro head act place t h hthere
    rw [watchNode]
    apply Watch.Clear.settle
    apply s.clear_watchAttempt hc h
    intro action hmem
    exact hthere action (Option.mem_toList.2 hmem)
  case branch =>
    intro head condition ifTrue ifFalse htrue hfalse place t h hthere
    rw [Node.actions, List.forall_mem_append] at hthere
    cases hside : t.state.context.condition s.config.unresolved condition with
    | error f =>
        rw [s.watchNode_branch_of_error hside]
        exact h.settle _ _ _ _ _
    | ok b =>
        rw [s.watchNode_branch_of_ok hside rfl]
        apply Watch.Clear.settle
        cases b with
        | true => exact htrue _ _ _ t h hthere.1
        | false => exact hfalse _ _ _ t h hthere.2
  case nil =>
    intro around index last t h _
    exact h
  case cons =>
    intro n rest hn hrest around index last t h hthere
    rw [Node.actionsAll, List.forall_mem_append] at hthere
    have hfirst := hn ⟨around, index⟩ t h hthere.1
    rw [watchNodes]
    split
    · next hnext =>
      rw [hnext] at hfirst
      exact hrest _ _ _ _ hfirst hthere.2
    · exact hfirst

end Surroundings

/-! ## Others do nothing -/

/-- What a watched instruction and the same one unwatched come to in a context is the same, and they
leave the same world. -/
inductive Watch.Agrees {α : Type} : Context → α × Watch → α × World → Prop where
  | same (a : α) (t : Watch) : Agrees t.state.context (a, t) (a, t.state.world)

theorem Watch.Agrees.eq {α : Type} {ctx : Context} {watched : α × Watch} {alone : α × World}
    (h : Watch.Agrees ctx watched alone) :
    watched.1 = alone.1 ∧ watched.2.state = ⟨alone.2, ctx⟩ := by
  cases h
  exact ⟨rfl, rfl⟩

/-- What a watched run comes to if nobody looks at what was met. -/
def Watch.unwatched (ran : Ended Flow × List StepTrace × Watch) : Ran :=
  (ran.1, ran.2.1, ran.2.2.state)

namespace Surroundings

variable (s : Surroundings) {c : Chance} (hc : c.Harmless) (halone : c.Alone)

include hc halone

theorem agrees_watchPerform (t : Watch) (act : Act) :
    Watch.Agrees t.state.context (s.watchPerform c (t.yield c) (.act act))
      (s.perform t.state.context t.state.world act) := by
  have hyield : (t.yield c).state = t.state := by rw [Watch.yield, halone.others]
  rw [s.watchPerform_act hc.panics (halone.meanwhile _ _), ← hyield]
  rcases s.perform (t.yield c).state.context (t.yield c).state.world act with ⟨ended, w⟩
  exact .same ended ((t.yield c).after w _)

theorem agrees_watchFallbacks (t : Watch) (act : Act) (first : Failure)
    (providers : List String) :
    Watch.Agrees t.state.context (s.watchFallbacks c (.act act) first t providers)
      (s.tryFallbacks t.state.context act first t.state.world providers) := by
  induction providers generalizing t with
  | nil => exact .same _ t
  | cons provider rest ih =>
      have hperform := s.agrees_watchPerform hc halone t (act.withProvider provider)
      rw [watchFallbacks, tryFallbacks, Instruction.withProvider]
      generalize s.watchPerform c (t.yield c) (.act (act.withProvider provider)) = watched
        at hperform ⊢
      generalize s.perform t.state.context t.state.world (act.withProvider provider) = performed
        at hperform ⊢
      -- The context that is left is an index of `Agrees`, so `cases` needs it to be a variable.
      generalize t.state.context = ctx at hperform ⊢
      cases hperform with
      | same ended u =>
          rcases ended with (f | _) | p
          · exact ih u
          · exact .same _ u
          · exact .same _ u

theorem agrees_watchAttempt (fallbacks : List String) (t : Watch) (act : Act) :
    Watch.Agrees t.state.context (s.watchAttempt c fallbacks t (.act act))
      (s.attempt fallbacks t.state.context t.state.world act) := by
  have hperform := s.agrees_watchPerform hc halone t act
  rw [watchAttempt, attempt]
  generalize s.watchPerform c (t.yield c) (.act act) = watched at hperform ⊢
  generalize s.perform t.state.context t.state.world act = performed at hperform ⊢
  generalize t.state.context = ctx at hperform ⊢
  cases hperform with
  | same ended u =>
      rcases ended with (f | _) | p
      · have huses : (Instruction.act act).usesProviders = act.usesProviders := rfl
        rw [huses]
        dsimp only
        by_cases hgo : (act.usesProviders && f.allowsFallback) = true
        · rw [if_pos hgo, if_pos hgo]
          exact s.agrees_watchFallbacks hc halone u act f fallbacks
        · rw [if_neg hgo, if_neg hgo]
          exact .same _ u
      · exact .same _ u
      · exact .same _ u

/-- If others do nothing then steps that are watched come to what they come to
unwatched. -/
theorem unwatched_watchNodes (fallbacks : List String) :
    (∀ n place (t : Watch), Watch.unwatched (s.watchNode c fallbacks place n t)
      = s.runNode fallbacks place n t.state) ∧
    ∀ ns around index last (t : Watch),
      Watch.unwatched (s.watchNodes c fallbacks around index last ns t)
        = s.runNodes fallbacks around index last ns t.state := by
  refine Node.induction ?plain ?branch ?nil ?cons
  case plain =>
    intro head act place t
    obtain ⟨hended, hstate⟩ := (s.agrees_watchAttempt hc halone fallbacks t act).eq
    rw [watchNode, runNode]
    dsimp only [Watch.unwatched, Watch.settle]
    rw [hended, hstate]
  case branch =>
    intro head condition ifTrue ifFalse htrue hfalse place t
    cases hside : t.state.context.condition s.config.unresolved condition with
    | error f =>
        rw [s.watchNode_branch_of_error hside, s.runNode_branch_of_error fallbacks hside]
        rfl
    | ok b =>
        have hbranch : Watch.unwatched (s.watchNodes c fallbacks (place.inside b) 0 .null
              (if b then ifTrue else ifFalse) t)
            = s.runNodes fallbacks (place.inside b) 0 .null (if b then ifTrue else ifFalse)
                t.state := by
          cases b with
          | true => exact htrue _ _ _ t
          | false => exact hfalse _ _ _ t
        rw [s.watchNode_branch_of_ok hside rfl, s.runNode_branch_of_ok fallbacks hside, ← hbranch]
        rfl
  case nil =>
    intro around index last t
    rfl
  case cons =>
    intro n rest hn hrest around index last t
    have hfirst := hn ⟨around, index⟩ t
    rcases hran : s.watchNode c fallbacks ⟨around, index⟩ n t with ⟨ended, entries, u⟩
    rw [hran] at hfirst
    rw [watchNodes, hran]
    rcases ended with stop | (v | v)
    · rw [s.runNodes_of_stop fallbacks (by rw [← hfirst]; intro v h; cases h)]
      exact hfirst
    · rw [s.runNodes_of_next fallbacks hfirst.symm, ← hrest]
      rfl
    · rw [s.runNodes_of_stop fallbacks (by rw [← hfirst]; intro v h; cases h)]
      exact hfirst

end Surroundings

/-! ## Executions -/

namespace Surroundings

/-- **No precaution is met.**  If nobody installs or uninstalls anything while a recipe is executed
and no transport panics, then no conditional is carried out like a plain instruction, no action is
missing, and no place of calls in parallel holds a stand-in, whatever the recipe, the world and the
network, whenever the caller gives up, whatever else others do to the world and make of an
instruction, and in whatever order tasks end.  If others do nothing at all then the execution comes
to what it comes to unwatched. -/
theorem precautions_unmet (s : Surroundings) (c : Chance) (w : World) (r : Recipe)
    (hc : c.Harmless) :
    (s.watch c w r).2.2.met = [] ∧
      (c.Alone → Watch.unwatched (s.watch c w r) = s.run w r) := by
  unfold watch run
  cases hread : Node.decode w.catalog.hasAction s.config.maxDepth r.steps with
  | error f => exact ⟨rfl, fun _ => rfl⟩
  | ok nodes =>
      dsimp only
      cases s.isCut w.now with
      | true => exact ⟨rfl, fun _ => rfl⟩
      | false =>
          refine ⟨?_, fun halone => ?_⟩
          · have hclear : Watch.Clear w ⟨⟨w, .empty⟩, 0, []⟩ := ⟨rfl, rfl⟩
            exact ((s.clear_watchNodes hc _).2 nodes _ _ _ _ hclear
              (Node.hasAction_of_decode hread)).met
          · exact (s.unwatched_watchNodes hc halone _).2 nodes _ _ _ _

/-- A conditional whose branch has three calls in parallel, the second to a provider that is not
there, and an action. -/
def mailing : Recipe :=
  let callTo (provider : String) : Value :=
    .object [("endpoint", .text "p"), ("provider", .text provider)]
  ⟨1.0,
    [⟨"conditional", none, false,
      [("condition", .bool true),
        ("ifTrue", .list
          [.object
            [("calls", .list [callTo "alpha", callTo "beta", callTo "alpha"]),
              ("type", .text "parallelApiCalls")],
            .object [("type", .text "mail.check")]])]⟩],
    []⟩

/-- A provider, and a capability with one action. -/
def mailInstalled : World :=
  { alphaAlone with
    catalog := { alphaAlone.catalog with
      capabilities := [("mail", ⟨"1.0.0", [], [], ["mail.check"], []⟩)]
      actions := [("mail.check", fun _ _ => ⟨3, .ok (.bool true)⟩)] } }

/-- Others do nothing, and tasks end in the order opposite to the one in which they were made. -/
def inReverse : Chance where
  others _ w := w
  meanwhile _ ran := ran
  next _ left := left
  panics _ _ := none

/-- Others fail with calls of their own before every instruction and during it. -/
def amidFailures : Chance :=
  { inReverse with
    others := fun _ w => w.adjust "alpha" fun e => e.recordCall w.now false
    meanwhile := fun _ ran =>
      (ran.1, ran.2.adjust "alpha" fun e => e.recordCall ran.2.now false) }

theorem precautions_unmet_amidFailures :
    amidFailures.Harmless ∧
      ((answersInOrder.watch amidFailures mailInstalled mailing).2.1.map (·.op))
        = ["conditional", "parallelApiCalls", "mail.check"] ∧
      (answersInOrder.watch amidFailures mailInstalled mailing).2.2.met = [] ∧
      inReverse.Harmless ∧ inReverse.Alone ∧
      Watch.unwatched (answersInOrder.watch inReverse mailInstalled mailing)
        = answersInOrder.run mailInstalled mailing := by
  have hamid : amidFailures.Harmless := ⟨fun _ _ => rfl, fun _ _ => rfl, fun _ _ => rfl⟩
  have hreverse : inReverse.Harmless := ⟨fun _ _ => rfl, fun _ _ => rfl, fun _ _ => rfl⟩
  have halone : inReverse.Alone := ⟨fun _ _ => rfl, fun _ _ => rfl⟩
  refine ⟨hamid, by decide +kernel, ?_, hreverse, halone, ?_⟩
  · exact (precautions_unmet answersInOrder amidFailures mailInstalled mailing hamid).1
  · exact (precautions_unmet answersInOrder inReverse mailInstalled mailing hreverse).2 halone

/-- If others take the action away meanwhile, it is missing; and if the transport of the third call
panics, the place of this call holds a stand-in. -/
example :
    let uninstalling : Chance :=
      { amidFailures with
        others := fun _ w => { w with catalog := { w.catalog with actions := [] } } }
    let panicking : Chance :=
      { amidFailures with panics := fun _ i => if i = 2 then some "out of reach" else none }
    (answersInOrder.watch uninstalling mailInstalled mailing).2.2.met = [.missing "mail.check"] ∧
      (answersInOrder.watch panicking mailInstalled mailing).2.2.met
        = [.standIn (.aborted 2 "out of reach")] := by
  decide +kernel

end Surroundings

end Planwright
