import Planwright.Failure

set_option autoImplicit false

/-!
# Which failures are worth a retry

A failure of several calls holds the failures of these calls, which may hold others in turn.
Whether a retry may help is a matter of what is held at any depth: it may if some failure that holds
no others is of a kind worth a retry, or if some calls failed together although there were none
(`retry_cause_iff`).  The order in which failures are held is of no account (`Reordered`).
-/

namespace Planwright

namespace Failure

/-! ## Failures of several calls -/

theorem kind_allFailed_cons (f : Failure) (rest : List Failure) :
    (allFailed (f :: rest)).kind = match firstRetryable? (f :: rest) with
      | some k => k
      | none => f.kind := by
  delta kind firstRetryable?
  rfl

theorem isRetryable_allFailed_cons (f : Failure) (rest : List Failure) :
    (allFailed (f :: rest)).isRetryable = match firstRetryable? (f :: rest) with
      | some k => k.isRetryable
      | none => f.kind.isRetryable := rfl

/-- Whether a retry may help after several failures is a matter of their common kind. -/
theorem isRetryable_allFailed (failures : List Failure) :
    (allFailed failures).isRetryable = (allFailed failures).kind.isRetryable := by
  cases failures with
  | nil => rfl
  | cons f rest =>
      rw [kind_allFailed_cons, isRetryable_allFailed_cons]
      cases firstRetryable? (f :: rest) <;> rfl

/-- Whether a retry may help is a matter of the kind. -/
theorem isRetryable_kind (f : Failure) : f.kind.isRetryable = f.isRetryable := by
  cases f with
  | allFailed failures => exact (isRetryable_allFailed failures).symm
  | _ => rfl

theorem firstRetryable?_eq (failures : List Failure) :
    firstRetryable? failures = (failures.find? isRetryable).map kind := by
  induction failures with
  | nil => rfl
  | cons f rest ih =>
      rw [firstRetryable?, List.find?_cons]
      cases f.isRetryable with
      | true => rfl
      | false => exact ih

/-- After several failures a retry may help if it may after one of them, or if there are none. -/
theorem isRetryable_allFailed_eq (failures : List Failure) :
    (allFailed failures).isRetryable = (failures.isEmpty || failures.any isRetryable) := by
  cases failures with
  | nil => rfl
  | cons f rest =>
      rw [isRetryable_allFailed_cons, firstRetryable?_eq, List.isEmpty_cons, Bool.false_or]
      cases hfound : (f :: rest).find? isRetryable with
      | none =>
          have hnone := List.find?_eq_none.1 hfound
          have hany : (f :: rest).any isRetryable = false := by
            simpa only [Bool.not_eq_true, List.any_eq_false] using hnone
          have hfirst : f.isRetryable = false := Bool.not_eq_true _ ▸ hnone f List.mem_cons_self
          rw [hany, ← hfirst]
          exact isRetryable_kind f
      | some g =>
          have hretry : g.isRetryable = true := List.find?_some hfound
          have hany : (f :: rest).any isRetryable = true :=
            List.any_eq_true.2 ⟨g, List.mem_of_find?_eq_some hfound, hretry⟩
          rw [hany, ← hretry]
          exact isRetryable_kind g

/-! ## What is advised -/

/-- A retry may help exactly if a retry is advised. -/
theorem isRetryable_iff (f : Failure) : f.isRetryable = true ↔ f.disposition = .retryable := by
  unfold disposition
  split
  · next hkind =>
      refine ⟨fun h => ?_, nofun⟩
      have hretry := f.isRetryable_kind.trans h
      rw [hkind] at hretry
      cases hretry
  · cases f.isRetryable with
    | true => exact ⟨fun _ => rfl, fun _ => rfl⟩
    | false => exact ⟨nofun, nofun⟩

/-- Another provider may be tried exactly if a retry may help. -/
theorem allowsFallback_eq (f : Failure) : f.allowsFallback = f.isRetryable := by
  rw [Bool.eq_iff_iff, isRetryable_iff, allowsFallback, beq_iff_eq]

/-! ## What a failure holds -/

/-- A failure is another one, or is held by it at some depth. -/
inductive PartOf : Failure → Failure → Prop where
  | self (f : Failure) : PartOf f f
  | held {f g : Failure} {failures : List Failure} (mem : g ∈ failures) (inner : PartOf f g) :
      PartOf f (.allFailed failures)

/-- A failure that holds no others and is of a kind worth a retry, or several calls that failed
although there were none. -/
def IsCause (f : Failure) : Prop :=
  ((∀ failures, f ≠ .allFailed failures) ∧
    (f.kind = .apiFailure ∨ f.kind = .rateLimited ∨ f.kind = .providerUnavailable)) ∨
  f = .allFailed []

theorem isRetryable_of_isCause {f : Failure} (h : f.IsCause) : f.isRetryable = true := by
  rcases h with ⟨-, hkind⟩ | rfl
  · rw [← isRetryable_kind]
    rcases hkind with hkind | hkind | hkind <;> rw [hkind] <;> rfl
  · rfl

/-- A failure that holds no others is itself the only cause there can be. -/
theorem isCause_of_isRetryable {f : Failure} (hleaf : ∀ failures, f ≠ .allFailed failures)
    (h : f.isRetryable = true) : f.IsCause := by
  refine .inl ⟨hleaf, ?_⟩
  rw [← isRetryable_kind] at h
  cases hkind : f.kind <;> simp_all [FailureKind.isRetryable]

theorem isRetryable_of_partOf {f g : Failure} (h : PartOf f g) (hf : f.isRetryable = true) :
    g.isRetryable = true := by
  induction h with
  | self => exact hf
  | held mem _ ih =>
      rw [isRetryable_allFailed_eq, Bool.or_eq_true]
      exact .inr (List.any_eq_true.2 ⟨_, mem, ih⟩)

/-- What holds of a failure if it holds of those that it holds. -/
theorem induction {P : Failure → Prop}
    (leaf : ∀ f, (∀ failures, f ≠ .allFailed failures) → P f)
    (several : ∀ failures, (∀ f ∈ failures, P f) → P (.allFailed failures)) (f : Failure) : P f :=
  Failure.rec (motive_1 := P) (motive_2 := fun failures => ∀ f ∈ failures, P f)
    (fun _ _ => leaf _ nofun) (fun _ => leaf _ nofun) (fun _ _ => leaf _ nofun) several
    (leaf _ nofun) (fun _ h => nomatch h) (fun _ _ hf hrest => List.forall_mem_cons.2 ⟨hf, hrest⟩) f

/-- Wherever a retry may help there is a cause. -/
theorem exists_isCause {f : Failure} (h : f.isRetryable = true) : ∃ g, PartOf g f ∧ g.IsCause := by
  induction f using Failure.induction with
  | leaf f hleaf => exact ⟨f, .self f, isCause_of_isRetryable hleaf h⟩
  | several failures ih =>
      rw [isRetryable_allFailed_eq, Bool.or_eq_true, List.isEmpty_iff, List.any_eq_true] at h
      rcases h with rfl | ⟨g, hg, hretry⟩
      · exact ⟨_, .self _, .inr rfl⟩
      · obtain ⟨cause, hpart, hcause⟩ := ih g hg hretry
        exact ⟨cause, .held hg hpart, hcause⟩

/-! ## Order -/

/-- The same failures, but those that are held together anywhere may stand in another order. -/
inductive Reordered : Failure → Failure → Prop where
  | refl (f : Failure) : Reordered f f
  | permuted {failures others : List Failure} (perm : failures.Perm others) :
      Reordered (.allFailed failures) (.allFailed others)
  | within {f g : Failure} (before behind : List Failure) (inner : Reordered f g) :
      Reordered (.allFailed (before ++ f :: behind)) (.allFailed (before ++ g :: behind))
  | trans {f g h : Failure} (first : Reordered f g) (second : Reordered g h) : Reordered f h

theorem Reordered.isRetryable_eq {f g : Failure} (h : Reordered f g) :
    f.isRetryable = g.isRetryable := by
  induction h with
  | refl => rfl
  | permuted perm =>
      rw [isRetryable_allFailed_eq, isRetryable_allFailed_eq, perm.isEmpty_eq, perm.any_eq]
  | within before behind _ ih =>
      have hany (h : Failure) : (before ++ h :: behind).isEmpty = false :=
        List.isEmpty_eq_false_iff.2 (by simp)
      rw [isRetryable_allFailed_eq, isRetryable_allFailed_eq, hany, hany]
      simp [ih]
  | trans _ _ ihFirst ihSecond => exact ihFirst.trans ihSecond

/-- **Causes of a retry.**  A retry may help after a failure exactly if the failure has a cause
worth a retry at some depth.  Exactly then is it advised, may another provider be tried, and is the
kind of the failure one that is worth a retry.  The order in which failures are held together, at
whatever depth, changes none of this. -/
theorem retry_cause_iff (f : Failure) :
    (f.isRetryable = true ↔ ∃ g, PartOf g f ∧ g.IsCause) ∧
    (f.allowsFallback = true ↔ f.isRetryable = true) ∧
    (f.disposition = .retryable ↔ f.isRetryable = true) ∧
    f.kind.isRetryable = f.isRetryable ∧
    ∀ g, Reordered f g →
      g.isRetryable = f.isRetryable ∧ g.allowsFallback = f.allowsFallback ∧
      (g.disposition = .retryable ↔ f.disposition = .retryable) ∧
      g.kind.isRetryable = f.kind.isRetryable := by
  refine ⟨⟨exists_isCause, ?cause⟩, ?fallback, f.isRetryable_iff.symm, f.isRetryable_kind, ?order⟩
  case cause =>
    rintro ⟨g, hpart, hcause⟩
    exact isRetryable_of_partOf hpart (isRetryable_of_isCause hcause)
  case fallback => rw [allowsFallback_eq]
  case order =>
    intro g hreordered
    have hsame := hreordered.isRetryable_eq.symm
    refine ⟨hsame, ?_, ?_, ?_⟩
    · rw [allowsFallback_eq, allowsFallback_eq, hsame]
    · rw [← isRetryable_iff, ← isRetryable_iff, hsame]
    · rw [isRetryable_kind, isRetryable_kind, hsame]

end Failure

end Planwright
