import Planwright.Recipe

set_option autoImplicit false

/-!
# The order of fallbacks

The fallbacks of a recipe are tried by falling confidence, compared in the total order of doubles,
and those of the same confidence in the order of their declaration.  These three facts determine
the order: it has the fallbacks that were declared, they are sorted, and those of any one
confidence stand as they were declared.
-/

namespace Planwright

namespace Fallback

/-- The place of a confidence in the total order of doubles. -/
def rank (f : Fallback) : Int := Double.orderKey f.confidence

end Fallback

namespace Recipe

/-- The comparison that fallbacks are sorted by. -/
def triedFirst (a b : Fallback) : Bool := b.rank ≤ a.rank

theorem fallbackOrder_eq (r : Recipe) : r.fallbackOrder = r.fallbacks.mergeSort triedFirst := rfl

theorem triedFirst_trans (a b c : Fallback) (hab : triedFirst a b) (hbc : triedFirst b c) :
    triedFirst a c := by
  simp only [triedFirst, decide_eq_true_eq] at *
  exact Int.le_trans hbc hab

theorem triedFirst_total (a b : Fallback) : triedFirst a b || triedFirst b a := by
  simp only [triedFirst, Bool.or_eq_true, decide_eq_true_eq]
  exact Int.le_total b.rank a.rank

theorem fallbackOrder_perm (r : Recipe) : r.fallbackOrder.Perm r.fallbacks :=
  List.mergeSort_perm r.fallbacks triedFirst

theorem fallbackOrder_pairwise (r : Recipe) :
    r.fallbackOrder.Pairwise fun a b => b.rank ≤ a.rank := by
  rw [fallbackOrder_eq]
  exact (List.pairwise_mergeSort triedFirst_trans triedFirst_total r.fallbacks).imp
    fun h => by simpa [triedFirst] using h

/-- Fallbacks of one confidence are tried in the order of their declaration. -/
theorem fallbackOrder_filter (r : Recipe) (k : Int) :
    r.fallbackOrder.filter (·.rank = k) = r.fallbacks.filter (·.rank = k) := by
  have hties : (r.fallbacks.filter (·.rank = k)).Pairwise fun a b => triedFirst a b := by
    refine List.pairwise_of_forall_mem_list ?_
    intro a ha b hb
    have ha : a.rank = k := by simpa using (List.mem_filter.1 ha).2
    have hb : b.rank = k := by simpa using (List.mem_filter.1 hb).2
    simp [triedFirst, ha, hb]
  -- the ties are sorted among themselves, so sorting keeps them as a part of the list
  have hsub : (r.fallbacks.filter (·.rank = k)).Sublist r.fallbackOrder :=
    List.sublist_mergeSort triedFirst_trans triedFirst_total hties List.filter_sublist
  have hsub' := hsub.filter (·.rank = k)
  rw [List.filter_filter] at hsub'
  simp only [Bool.and_self] at hsub'
  have hlength : (r.fallbackOrder.filter (·.rank = k)).length
      = (r.fallbacks.filter (·.rank = k)).length := (r.fallbackOrder_perm.filter _).length_eq
  exact (hsub'.eq_of_length hlength.symm).symm

end Recipe

end Planwright
