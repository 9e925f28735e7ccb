import Mathlib.Data.List.Forall2

set_option autoImplicit false

/-!
# Lists that correspond

A list of records corresponds to the list of what is recorded if they correspond item by item.  Each
item then has its counterpart, and where one list comes apart so does the other.
-/

namespace Planwright.Correspondence

variable {α β : Type} {R : α → β → Prop} {xs : List α} {ys : List β}

theorem exists_left (h : List.Forall₂ R xs ys) {y : β} (hy : y ∈ ys) : ∃ x ∈ xs, R x y := by
  induction h with
  | nil => cases hy
  | @cons x other _ _ hrel _ ih =>
      rcases List.mem_cons.1 hy with rfl | hmem
      · exact ⟨x, List.mem_cons_self, hrel⟩
      · obtain ⟨u, hu, hfound⟩ := ih hmem
        exact ⟨u, List.mem_cons_of_mem _ hu, hfound⟩

theorem exists_right (h : List.Forall₂ R xs ys) {x : α} (hx : x ∈ xs) : ∃ y ∈ ys, R x y :=
  exists_left h.flip hx

/-- What corresponding items have in common. -/
theorem map_eq {γ : Type} {f : α → γ} {g : β → γ} (hrel : ∀ x y, R x y → f x = g y)
    (h : List.Forall₂ R xs ys) : xs.map f = ys.map g := by
  induction h with
  | nil => rfl
  | cons hitem _ ih => rw [List.map_cons, List.map_cons, ih, hrel _ _ hitem]

/-- Where the first list comes apart, so does the second. -/
theorem append_left {us : List α} (h : List.Forall₂ R (xs ++ us) ys) :
    ∃ before behind, List.Forall₂ R xs before ∧ List.Forall₂ R us behind ∧
      ys = before ++ behind := by
  refine ⟨ys.take xs.length, ys.drop xs.length, ?_, ?_, (List.take_append_drop _ _).symm⟩
  · simpa using List.forall₂_take xs.length h
  · simpa using List.forall₂_drop xs.length h

end Planwright.Correspondence
