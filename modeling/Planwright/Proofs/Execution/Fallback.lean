import Planwright.Execution.Run
import Planwright.Proofs.FallbackOrder

set_option autoImplicit false

/-!
# When fallbacks are tried

An instruction that calls providers and fails in a way that may be mended is tried again with each
fallback in turn.  `Attempted` says what this comes to, without saying how it is done: what was
tried, each time against the same context and in the world that the try before left, and what became
of the whole.  The interpreter does this and nothing else (`attempted_iff`).
-/

namespace Planwright

namespace Surroundings

variable (s : Surroundings) (ctx : Context) (act : Act)

/-- Tries with some providers, one after the other and once each, that all failed: from the world
before the first to the world after the last. -/
inductive TriedInVain : World → List String → World → Prop where
  | nil (w : World) : TriedInVain w [] w
  | cons {w w₁ w₂ : World} {provider : String} {rest : List String} {f : Failure}
      (failed : s.perform ctx w (act.withProvider provider) = (.error (.failed f), w₁))
      (later : TriedInVain w₁ rest w₂) : TriedInVain w (provider :: rest) w₂

/-- Whether fallbacks are tried after a failure. -/
def MayFallBack (f : Failure) : Prop := act.usesProviders = true ∧ f.disposition = .retryable

/-- What may become of an instruction that has fallbacks. -/
inductive Attempted (fallbacks : List String) (w : World) :
    Ended (Performed × StepStatus) → World → Prop where
  /-- the first try succeeds -/
  | atOnce {p : Performed} {w₁ : World} (first : s.perform ctx w act = (.ok p, w₁)) :
      Attempted fallbacks w (.ok (p, .completed)) w₁
  /-- the caller gives up during the first try -/
  | cut {w₁ : World} (first : s.perform ctx w act = (.error .interrupted, w₁)) :
      Attempted fallbacks w (.error .interrupted) w₁
  /-- the first try fails, and no fallback is tried -/
  | final {f : Failure} {w₁ : World} (first : s.perform ctx w act = (.error (.failed f), w₁))
      (stop : ¬ MayFallBack act f) : Attempted fallbacks w (.error (.failed f)) w₁
  /-- the first fallback that succeeds gives the value -/
  | viaFallback {f : Failure} {w₁ w₂ w₃ : World} {tried untried : List String} {provider : String}
      {p : Performed} (first : s.perform ctx w act = (.error (.failed f), w₁))
      (go : MayFallBack act f) (split : fallbacks = tried ++ provider :: untried)
      (vain : TriedInVain s ctx act w₁ tried w₂)
      (last : s.perform ctx w₂ (act.withProvider provider) = (.ok p, w₃)) :
      Attempted fallbacks w (.ok ((p.1, some provider), .completedViaFallback)) w₃
  /-- the caller gives up during the try with a fallback -/
  | cutLater {f : Failure} {w₁ w₂ w₃ : World} {tried untried : List String} {provider : String}
      (first : s.perform ctx w act = (.error (.failed f), w₁)) (go : MayFallBack act f)
      (split : fallbacks = tried ++ provider :: untried)
      (vain : TriedInVain s ctx act w₁ tried w₂)
      (last : s.perform ctx w₂ (act.withProvider provider) = (.error .interrupted, w₃)) :
      Attempted fallbacks w (.error .interrupted) w₃
  /-- all fallbacks fail, and the failure of the first try stands -/
  | exhausted {f : Failure} {w₁ w₂ : World}
      (first : s.perform ctx w act = (.error (.failed f), w₁)) (go : MayFallBack act f)
      (vain : TriedInVain s ctx act w₁ fallbacks w₂) :
      Attempted fallbacks w (.error (.failed f)) w₂

variable {s ctx act}

/-! ## Trying fallbacks -/

theorem TriedInVain.tryFallbacks_append {w w' : World} {tried : List String}
    (h : TriedInVain s ctx act w tried w') (first : Failure) (rest : List String) :
    s.tryFallbacks ctx act first w (tried ++ rest) = s.tryFallbacks ctx act first w' rest := by
  induction h with
  | nil w => rfl
  | cons hfailed _ ih =>
      rw [List.cons_append, tryFallbacks, hfailed]
      exact ih

/-- What becomes of trying fallbacks: all fail, or there is a first that does not, and it succeeds
or is given up. -/
theorem tryFallbacks_cases (s : Surroundings) (ctx : Context) (act : Act) (w : World)
    (fallbacks : List String) :
    (∃ w₁, TriedInVain s ctx act w fallbacks w₁) ∨
      ∃ tried provider untried w₁ ended w₂, fallbacks = tried ++ provider :: untried ∧
        TriedInVain s ctx act w tried w₁ ∧
        s.perform ctx w₁ (act.withProvider provider) = (ended, w₂) ∧
        ∀ f, ended ≠ .error (.failed f) := by
  induction fallbacks generalizing w with
  | nil => exact .inl ⟨w, .nil w⟩
  | cons provider rest ih =>
      cases hperform : s.perform ctx w (act.withProvider provider) with
      | mk ended w₁ =>
          by_cases hfailed : ∃ f, ended = .error (.failed f)
          · obtain ⟨f, rfl⟩ := hfailed
            rcases ih w₁ with ⟨w₂, hvain⟩ | ⟨tried, next, untried, w₂, ended, w₃, rfl, hvain, hrest⟩
            · exact .inl ⟨w₂, .cons hperform hvain⟩
            · exact .inr ⟨provider :: tried, next, untried, w₂, ended, w₃, rfl,
                .cons hperform hvain, hrest⟩
          · exact .inr ⟨[], provider, rest, w, ended, w₁, rfl, .nil w, hperform,
              fun f h => hfailed ⟨f, h⟩⟩

/-! ## Attempts -/

theorem mayFallBack_iff {act : Act} {f : Failure} :
    MayFallBack act f ↔ (act.usesProviders && f.allowsFallback) = true := by
  simp [MayFallBack, Failure.allowsFallback]

/-- The interpreter leaves no other outcome. -/
theorem Attempted.attempt_eq {fallbacks : List String} {w w' : World}
    {ended : Ended (Performed × StepStatus)} (h : Attempted s ctx act fallbacks w ended w') :
    s.attempt fallbacks ctx w act = (ended, w') := by
  cases h with
  | atOnce hfirst => rw [attempt, hfirst]
  | cut hfirst => rw [attempt, hfirst]
  | final hfirst hstop =>
      rw [attempt, hfirst]
      exact if_neg (mt mayFallBack_iff.2 hstop)
  | viaFallback hfirst hgo hsplit hvain hlast =>
      rw [attempt, hfirst]
      refine (if_pos (mayFallBack_iff.1 hgo)).trans ?_
      rw [hsplit, hvain.tryFallbacks_append, tryFallbacks, hlast]
  | cutLater hfirst hgo hsplit hvain hlast =>
      rw [attempt, hfirst]
      refine (if_pos (mayFallBack_iff.1 hgo)).trans ?_
      rw [hsplit, hvain.tryFallbacks_append, tryFallbacks, hlast]
  | @exhausted f _ _ hfirst hgo hvain =>
      rw [attempt, hfirst]
      refine (if_pos (mayFallBack_iff.1 hgo)).trans ?_
      have htried := hvain.tryFallbacks_append f []
      rw [List.append_nil] at htried
      rw [htried, tryFallbacks]

/-- There always is an outcome. -/
theorem exists_attempted (s : Surroundings) (ctx : Context) (act : Act) (fallbacks : List String)
    (w : World) : ∃ ended w', Attempted s ctx act fallbacks w ended w' := by
  cases hfirst : s.perform ctx w act with
  | mk first w₁ =>
      match first with
      | .ok p => exact ⟨_, _, .atOnce hfirst⟩
      | .error .interrupted => exact ⟨_, _, .cut hfirst⟩
      | .error (.failed f) =>
          by_cases hgo : MayFallBack act f
          · rcases tryFallbacks_cases s ctx act w₁ fallbacks with ⟨w₂, hvain⟩ |
              ⟨tried, provider, untried, w₂, ended, w₃, hsplit, hvain, hlast, hended⟩
            · exact ⟨_, _, .exhausted hfirst hgo hvain⟩
            · match ended with
              | .ok p => exact ⟨_, _, .viaFallback hfirst hgo hsplit hvain hlast⟩
              | .error .interrupted => exact ⟨_, _, .cutLater hfirst hgo hsplit hvain hlast⟩
              | .error (.failed g) => exact absurd rfl (hended g)
          · exact ⟨_, _, .final hfirst hgo⟩

/-- What becomes of an instruction that has fallbacks is exactly what `Attempted` says. -/
theorem attempted_iff {fallbacks : List String} {w w' : World}
    {ended : Ended (Performed × StepStatus)} :
    Attempted s ctx act fallbacks w ended w' ↔ s.attempt fallbacks ctx w act = (ended, w') := by
  constructor
  · exact Attempted.attempt_eq
  · intro h
    obtain ⟨ended', w'', hattempted⟩ := exists_attempted s ctx act fallbacks w
    rw [hattempted.attempt_eq] at h
    obtain ⟨rfl, rfl⟩ := Prod.mk.inj h
    exact hattempted

/-! ## Steps -/

/-- What a plain step leaves shows what became of its instruction.  A value is the result of the
step, and the one entry of its trace has the status and the provider; a failure is the failure of
the step, and nothing is written to the context. -/
def Shows (place : Place) (head : StepHead) (st : RunState) (ran : Ran) :
    Ended (Performed × StepStatus) → Prop
  | .ok ((v, provider), status) =>
    ran.1 = .ok ((Flow.next v).after head.returns) ∧
      ∃ time, ran.2.1 = [⟨place.text, head.op, status, provider, time, none⟩]
  | .error stop =>
    ran.1 = .error stop ∧ ran.2.2.context = st.context ∧
      ∃ time, ran.2.1 = [⟨place.text, head.op, .failed, none, time, some stop.failure.message⟩]

theorem runNode_plain_shows (s : Surroundings) (fallbacks : List String) (place : Place)
    (head : StepHead) (act : Act) (st : RunState) {ended : Ended (Performed × StepStatus)}
    {w' : World} (h : s.attempt fallbacks st.context st.world act = (ended, w')) :
    (s.runNode fallbacks place (.plain head act) st).2.2.world = w' ∧
      Shows place head st (s.runNode fallbacks place (.plain head act) st) ended := by
  rw [runNode, h]
  match ended with
  | .ok ((v, provider), status) => exact ⟨rfl, rfl, _, rfl⟩
  | .error (.failed f) => exact ⟨rfl, rfl, rfl, _, rfl⟩
  | .error .interrupted => exact ⟨rfl, rfl, rfl, _, rfl⟩

/-- **Fallbacks.**  The fallbacks of a recipe are sorted by falling confidence, ties standing as
they were declared.  What becomes of a plain step is what `Attempted` says of its instruction, the
fallbacks in this order and the context of the step, and there is only one such outcome: no
fallback is tried if the first try succeeds, if the instruction calls no providers or if its failure
is not retryable; otherwise they are tried in order, once each, until one succeeds; and if none
does, the failure of the first try is the failure of the step. -/
theorem step_fallback_protocol (s : Surroundings) (r : Recipe) (place : Place) (head : StepHead)
    (act : Act) (st : RunState) :
    (r.fallbackOrder.Perm r.fallbacks ∧
      r.fallbackOrder.Pairwise (fun a b => b.rank ≤ a.rank) ∧
      ∀ k, r.fallbackOrder.filter (·.rank = k) = r.fallbacks.filter (·.rank = k)) ∧
    ∃ ended w',
      Attempted s st.context act (r.fallbackOrder.map (·.provider)) st.world ended w' ∧
      (s.runNode (r.fallbackOrder.map (·.provider)) place (.plain head act) st).2.2.world = w' ∧
      Shows place head st
        (s.runNode (r.fallbackOrder.map (·.provider)) place (.plain head act) st) ended ∧
      ∀ other w'',
        Attempted s st.context act (r.fallbackOrder.map (·.provider)) st.world other w'' →
          other = ended ∧ w'' = w' := by
  refine ⟨⟨r.fallbackOrder_perm, r.fallbackOrder_pairwise, r.fallbackOrder_filter⟩, ?_⟩
  obtain ⟨ended, w', hattempt⟩ : ∃ ended w',
      s.attempt (r.fallbackOrder.map (·.provider)) st.context st.world act = (ended, w') :=
    ⟨_, _, rfl⟩
  obtain ⟨hworld, hshows⟩ := s.runNode_plain_shows _ place head act st hattempt
  refine ⟨ended, w', attempted_iff.2 hattempt, hworld, hshows, ?_⟩
  intro other w'' hother
  have hother := attempted_iff.1 hother
  exact Prod.mk.inj (hother.symm.trans hattempt)

end Surroundings

end Planwright
