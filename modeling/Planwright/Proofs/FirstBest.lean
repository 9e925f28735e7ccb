import Mathlib.Order.Nat

set_option autoImplicit false

/-!
# The first of the best

A list is gone through once, and what was chosen so far is given up only for something that beats
it.  Where scores tell what beats what, the one that is left in the end has the best score, and of
several with that score it is the first (`foldl_prefer_of_firstBest`).
-/

namespace Planwright

/-- An entry has the best score, and those before it have not. -/
def FirstBest {α : Type} (score : α → Nat) (xs : List α) (x : α) : Prop :=
  ∃ before after, xs = before ++ x :: after ∧ (∀ y ∈ before, score y < score x) ∧
    ∀ y ∈ after, score y ≤ score x

namespace FirstBest

variable {α : Type} {score : α → Nat} {xs : List α} {x : α}

theorem mem (h : FirstBest score xs x) : x ∈ xs := by
  obtain ⟨before, after, rfl, -, -⟩ := h
  exact List.mem_append_right before List.mem_cons_self

theorem le (h : FirstBest score xs x) {y : α} (hy : y ∈ xs) : score y ≤ score x := by
  obtain ⟨before, after, rfl, hbefore, hafter⟩ := h
  rcases List.mem_append.1 hy with hy | hy
  · exact (hbefore y hy).le
  · rcases List.mem_cons.1 hy with rfl | hy
    · exact le_rfl
    · exact hafter y hy

/-- A list that is not empty has a first entry of the best score. -/
theorem exists_of_ne_nil (score : α → Nat) (hne : xs ≠ []) : ∃ x, FirstBest score xs x := by
  induction xs with
  | nil => exact absurd rfl hne
  | cons head rest ih =>
      rcases eq_or_ne rest [] with rfl | hrest
      · exact ⟨head, [], [], rfl, List.forall_mem_nil _, List.forall_mem_nil _⟩
      · obtain ⟨x, hx⟩ := ih hrest
        rcases lt_or_ge (score head) (score x) with hlt | hge
        · obtain ⟨before, after, rfl, hbefore, hafter⟩ := hx
          exact ⟨x, head :: before, after, rfl, List.forall_mem_cons.2 ⟨hlt, hbefore⟩, hafter⟩
        · exact ⟨head, [], rest, rfl, List.forall_mem_nil _, fun y hy => (hx.le hy).trans hge⟩

/-- A score that only tells less apart from the best, and keeps what is below it below, has the same
first best. -/
theorem of_le {score' : α → Nat} (h : FirstBest score xs x)
    (hlt : ∀ y ∈ xs, score y < score x → score' y < score' x)
    (hle : ∀ y ∈ xs, score' y ≤ score' x) : FirstBest score' xs x := by
  obtain ⟨before, after, rfl, hbefore, hafter⟩ := h
  refine ⟨before, after, rfl, fun y hy => ?_, fun y hy => ?_⟩
  · exact hlt y (List.mem_append_left _ hy) (hbefore y hy)
  · exact hle y (List.mem_append_right _ (List.mem_cons_of_mem _ hy))

/-- What is first among the best of some entries stands among all of them behind those that are
worse. -/
theorem filter_iff {p : α → Bool} :
    FirstBest score (xs.filter p) x ↔
      ∃ before after, xs = before ++ x :: after ∧ p x = true ∧
        (∀ y ∈ before, p y = true → score y < score x) ∧
        ∀ y ∈ after, p y = true → score y ≤ score x := by
  constructor
  · rintro ⟨before, after, hsplit, hbefore, hafter⟩
    obtain ⟨front, back, rfl, hfront, hback⟩ := List.filter_eq_append_iff.1 hsplit
    obtain ⟨skipped, rest, rfl, hskipped, hx, hrest⟩ := List.filter_eq_cons_iff.1 hback
    refine ⟨front ++ skipped, rest, (List.append_assoc ..).symm, hx, fun y hy hp => ?_,
      fun y hy hp => ?_⟩
    · rcases List.mem_append.1 hy with hy | hy
      · exact hbefore y (hfront ▸ List.mem_filter.2 ⟨hy, hp⟩)
      · exact absurd hp (hskipped y hy)
    · exact hafter y (hrest ▸ List.mem_filter.2 ⟨hy, hp⟩)
  · rintro ⟨before, after, rfl, hx, hbefore, hafter⟩
    refine ⟨before.filter p, after.filter p, ?_, fun y hy => ?_, fun y hy => ?_⟩
    · rw [List.filter_append, List.filter_cons_of_pos hx]
    · obtain ⟨hy, hp⟩ := List.mem_filter.1 hy
      exact hbefore y hy hp
    · obtain ⟨hy, hp⟩ := List.mem_filter.1 hy
      exact hafter y hy hp

end FirstBest

/-! ## Going through a list once -/

variable {α β : Type} (beats : β → β → Prop) [DecidableRel beats]

/-- Of what was chosen so far and another one, the other one only if it beats the first. -/
def prefer (best : Option β) (other : β) : Option β :=
  match best with
  | none => some other
  | some chosen => if beats other chosen then some other else some chosen

variable {beats} {score : α → Nat} {f : α → β} {xs : List α} {x : α}

/-- What nothing beats stays chosen. -/
theorem foldl_prefer_of_unbeaten {b : β} {bs : List β} (h : ∀ c ∈ bs, ¬ beats c b) :
    bs.foldl (prefer beats) (some b) = some b := by
  induction bs with
  | nil => rfl
  | cons c rest ih =>
      obtain ⟨hc, hrest⟩ := List.forall_mem_cons.1 h
      have hstep : prefer beats (some b) c = some b := if_neg hc
      rw [List.foldl_cons, hstep]
      exact ih hrest

theorem mem_of_foldl_prefer {b : β} {bs : List β} {best : Option β}
    (h : bs.foldl (prefer beats) best = some b) : b ∈ bs ∨ best = some b := by
  induction bs generalizing best with
  | nil => exact .inr h
  | cons c rest ih =>
      rcases ih h with hmem | hbest
      · exact .inl (List.mem_cons_of_mem c hmem)
      · cases best with
        | none => exact .inl (Option.some.inj hbest ▸ List.mem_cons_self)
        | some d =>
            have hchoice : (if beats c d then some c else some d) = some b := hbest
            split at hchoice
            · exact .inl (Option.some.inj hchoice ▸ List.mem_cons_self)
            · exact .inr hchoice

/-- What beats everything before it is chosen. -/
theorem prefer_foldl_of_beats {b : β} {bs : List β} (h : ∀ c ∈ bs, beats b c) :
    prefer beats (bs.foldl (prefer beats) none) b = some b := by
  cases hbest : bs.foldl (prefer beats) none with
  | none => rfl
  | some c =>
      rcases mem_of_foldl_prefer hbest with hmem | hnone
      · exact if_pos (h c hmem)
      · cases hnone

/-- **The first of the best.**  Where scores tell what beats what, the first entry of the best score
is chosen. -/
theorem foldl_prefer_of_firstBest (h : FirstBest score xs x)
    (hscore : ∀ y ∈ xs, ∀ z ∈ xs, beats (f z) (f y) ↔ score y < score z) :
    (xs.map f).foldl (prefer beats) none = some (f x) := by
  have hx := h.mem
  obtain ⟨before, after, rfl, hbefore, hafter⟩ := h
  rw [List.map_append, List.foldl_append, List.map_cons, List.foldl_cons]
  have hchosen : prefer beats ((before.map f).foldl (prefer beats) none) (f x) = some (f x) := by
    refine prefer_foldl_of_beats fun c hc => ?_
    obtain ⟨y, hy, rfl⟩ := List.mem_map.1 hc
    exact (hscore y (List.mem_append_left _ hy) x hx).2 (hbefore y hy)
  rw [hchosen]
  refine foldl_prefer_of_unbeaten fun c hc => ?_
  obtain ⟨y, hy, rfl⟩ := List.mem_map.1 hc
  rw [hscore x hx y (List.mem_append_right _ (List.mem_cons_of_mem _ hy))]
  exact (hafter y hy).not_gt

end Planwright
