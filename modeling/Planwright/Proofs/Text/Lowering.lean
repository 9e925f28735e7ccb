import Planwright.Text.Case
import Planwright.Text.Search

set_option autoImplicit false

/-!
# Lower case of a part of a text

Characters go to lower case each for itself, but for the capital sigma, which asks for its
neighbours.  So a part of a text may have another lower case there than alone (`lowerBetween`):
exactly if a capital sigma in it stands *open*, where the part alone does not settle whether a word
ends with it.

A text without open sigmas is found in lower case wherever it stands (`lower_isInfix_of_settled`).
A text with one is missed beside some letter (`exists_missing_of_open`).
-/

namespace Planwright.Text

/-! ## Looking for a cased letter -/

/-- Whether case ignores all characters of a text. -/
def passedOver (s : List Char) : Bool := s.all isCaseIgnorable

theorem meetsCased_cons (c : Char) (s : List Char) :
    meetsCased (c :: s) = if isCaseIgnorable c then meetsCased s else isCased c := by
  by_cases h : isCaseIgnorable c = true <;> simp [meetsCased, h]

theorem passedOver_cons (c : Char) (s : List Char) :
    passedOver (c :: s) = (isCaseIgnorable c && passedOver s) := List.all_cons

theorem meetsCased_append (s after : List Char) :
    meetsCased (s ++ after) = if passedOver s then meetsCased after else meetsCased s := by
  induction s with
  | nil => rfl
  | cons c s ih =>
      rw [List.cons_append, meetsCased_cons, meetsCased_cons, passedOver_cons, ih]
      cases isCaseIgnorable c <;> rfl

theorem meetsCased_of_passedOver {s : List Char} (h : passedOver s = true) :
    meetsCased s = false := by
  have happend := meetsCased_append s []
  rwa [List.append_nil, if_pos h] at happend

/-! ## Open sigmas -/

/-- Whether the text around a capital sigma, `before` read backwards, leaves its lower case open: no
word begins before it and none goes on after it yet, or a word does go on to it and nothing follows
that case does not ignore. -/
def SigmaOpen (before after : List Char) : Prop :=
  (passedOver before = true ∧ meetsCased after = false) ∨
    (meetsCased before = true ∧ passedOver after = true)

/-- No capital sigma of the text stands open. -/
def Settled (t : List Char) : Prop :=
  ∀ before after, t = before ++ 'Σ' :: after → ¬ SigmaOpen before.reverse after

/-- A sigma that is not open keeps its lower case, whatever else stands around. -/
theorem lowerSigma_append {before after : List Char} (h : ¬ SigmaOpen before after)
    (earlier later : List Char) :
    lowerSigma (before ++ earlier) (after ++ later) = lowerSigma before after := by
  obtain ⟨hfirst, hlast⟩ := not_or.1 h
  unfold lowerSigma
  rw [meetsCased_append, meetsCased_append]
  cases hbefore : passedOver before with
  | true =>
      have hafter : meetsCased after = true := by
        cases hmeets : meetsCased after with
        | true => rfl
        | false => exact absurd ⟨hbefore, hmeets⟩ hfirst
      have hgoes : passedOver after = false := by
        cases hpassed : passedOver after with
        | true => rw [meetsCased_of_passedOver hpassed] at hafter; cases hafter
        | false => rfl
      simp [hafter, hgoes]
  | false =>
      cases hmeets : meetsCased before with
      | false => rfl
      | true =>
          have hgoes : passedOver after = false := by
            cases hpassed : passedOver after with
            | true => exact absurd ⟨hmeets, hpassed⟩ hlast
            | false => rfl
          simp [hgoes]

/-- On one side of an open sigma every cased letter changes it. -/
theorem lowerSigma_ne_of_open {before after : List Char} (h : SigmaOpen before after) :
    (∀ x, meetsCased [x] = true → lowerSigma (before ++ [x]) after ≠ lowerSigma before after) ∨
      ∀ x, meetsCased [x] = true →
        lowerSigma before (after ++ [x]) ≠ lowerSigma before after := by
  unfold lowerSigma
  rcases h with ⟨hbefore, hafter⟩ | ⟨hbefore, hafter⟩
  · left
    intro x hx
    rw [meetsCased_append, if_pos hbefore, meetsCased_of_passedOver hbefore, hx, hafter]
    decide
  · right
    intro x hx
    rw [meetsCased_append, if_pos hafter, meetsCased_of_passedOver hafter, hx, hbefore]
    decide

/-! ## Parts of a text -/

/-- Lower case of a text that stands between two others, the one before it given backwards. -/
def lowerBetween (before after : List Char) : List Char → List Char
  | [] => []
  | c :: rest =>
    if c = 'Σ' then lowerSigma before (rest ++ after) :: lowerBetween (c :: before) after rest
    else lowerChar c ++ lowerBetween (c :: before) after rest

variable {before after : List Char}

theorem lowerAfter_eq_lowerBetween (before t : List Char) :
    lowerAfter before t = lowerBetween before [] t := by
  induction t generalizing before with
  | nil => rfl
  | cons c t ih => rw [lowerAfter, lowerBetween, ih, List.append_nil]

theorem lower_eq_lowerBetween (t : List Char) : lower t = lowerBetween [] [] t :=
  lowerAfter_eq_lowerBetween [] t

theorem lowerBetween_append (before after s t : List Char) :
    lowerBetween before after (s ++ t)
      = lowerBetween before (t ++ after) s ++ lowerBetween (s.reverse ++ before) after t := by
  induction s generalizing before with
  | nil => rfl
  | cons c s ih =>
      rw [List.cons_append, lowerBetween, lowerBetween, ih]
      simp only [List.reverse_cons, List.append_assoc, List.singleton_append]
      split
      · rfl
      · rw [List.append_assoc]

/-- The lower case of a text is put together from those of its parts where they stand. -/
theorem lower_append (u t v : List Char) :
    lower (u ++ t ++ v)
      = lowerBetween [] (t ++ v) u ++ lowerBetween u.reverse v t
        ++ lowerBetween (u ++ t).reverse [] v := by
  simp only [lower_eq_lowerBetween, lowerBetween_append, List.append_nil]

/-- What stands around a text does not change the length of its lower case. -/
theorem length_lowerBetween (before after before' after' t : List Char) :
    (lowerBetween before after t).length = (lowerBetween before' after' t).length := by
  induction t generalizing before before' with
  | nil => rfl
  | cons c t ih =>
      rw [lowerBetween, lowerBetween]
      split
      · rw [List.length_cons, List.length_cons, ih]
      · rw [List.length_append, List.length_append, ih]

/-- Where a capital sigma stands in a text, its lower case does. -/
theorem lowerBetween_sigma (before after u v : List Char) :
    lowerBetween before after (u ++ 'Σ' :: v)
      = lowerBetween before ('Σ' :: v ++ after) u
        ++ lowerSigma (u.reverse ++ before) (v ++ after)
        :: lowerBetween ('Σ' :: (u.reverse ++ before)) after v := by
  rw [lowerBetween_append, lowerBetween, if_pos rfl]

/-! ## Texts without open sigmas -/

theorem lowerBetween_of_settled {u s : List Char} (h : Settled (u ++ s))
    (before after : List Char) :
    lowerBetween (u.reverse ++ before) after s = lowerBetween u.reverse [] s := by
  induction s generalizing u with
  | nil => rfl
  | cons c s ih =>
      have hrest := ih (u := u ++ [c]) (by rwa [List.append_assoc, List.singleton_append])
      rw [List.reverse_append, List.reverse_singleton, List.singleton_append] at hrest
      rw [lowerBetween, lowerBetween, ← List.cons_append, hrest, List.append_nil]
      split
      · next hc =>
        subst hc
        rw [lowerSigma_append (h u s rfl)]
      · rfl

/-- **Settled texts.**  A text without open sigmas stands in lower case wherever it stands. -/
theorem lower_isInfix_of_settled {t q : List Char} (h : Settled t) (hq : t <:+: q) :
    lower t <:+: lower q := by
  obtain ⟨u, v, rfl⟩ := hq
  have hsame : lowerBetween u.reverse v t = lower t :=
    (lowerBetween_of_settled (u := []) h u.reverse v).trans (lower_eq_lowerBetween t).symm
  rw [lower_append, hsame]
  exact ⟨_, _, rfl⟩

/-! ## Texts with open sigmas -/

theorem not_isInfix_cons {α : Type} {t s : List α} {x : α} (hlength : t.length = s.length)
    (hne : t ≠ s) (hhead : t.head? ≠ some x) : ¬ t <:+: x :: s := by
  intro h
  rcases List.infix_cons_iff.1 h with hstart | hlater
  · cases t with
    | nil => exact hne (List.length_eq_zero_iff.1 hlength.symm).symm
    | cons y t => exact hhead (congrArg some (List.cons_prefix_cons.1 hstart).1)
  · exact hne (hlater.eq_of_length hlength)

theorem not_isInfix_concat {α : Type} {t s : List α} {x : α} (hlength : t.length = s.length)
    (hne : t ≠ s) (hlast : t.getLast? ≠ some x) : ¬ t <:+: s ++ [x] := by
  rw [← List.reverse_infix, List.reverse_append, List.reverse_singleton, List.singleton_append]
  refine not_isInfix_cons (by simpa using hlength) (by simpa using hne) ?_
  rwa [List.head?_reverse]

/-- The letters that may be put beside a text. -/
def beside : List Char := ['a', 'b']

theorem of_mem_beside {x : Char} (hx : x ∈ beside) :
    x ≠ 'Σ' ∧ lowerChar x = [x] ∧ meetsCased [x] = true := by
  rcases List.mem_cons.1 hx with rfl | hx
  · decide +kernel
  · obtain rfl := List.mem_singleton.1 hx
    decide +kernel

theorem exists_beside (avoid : Option Char) : ∃ x ∈ beside, avoid ≠ some x := by
  by_cases h : avoid = some 'a'
  · exact ⟨'b', by decide, by rw [h]; decide⟩
  · exact ⟨'a', by decide, h⟩

/-- A change of characters that keeps both sigmas and the letters that may be put beside, and makes
no other character into one of them. -/
def KeepsLetters (f : Char → Char) : Prop := ∀ x ∈ 'σ' :: 'ς' :: beside, ∀ c, f c = x ↔ c = x

variable {f : Char → Char}

theorem KeepsLetters.lowerSigma (h : KeepsLetters f) (before after : List Char) :
    f (lowerSigma before after) = lowerSigma before after := by
  unfold Text.lowerSigma
  split
  · exact (h 'ς' (by decide) 'ς').2 rfl
  · exact (h 'σ' (by decide) 'σ').2 rfl

theorem KeepsLetters.ne_some (h : KeepsLetters f) {x : Char} (hx : x ∈ beside) {c : Option Char}
    (hc : c ≠ some x) : c.map f ≠ some x := by
  intro hmap
  obtain ⟨d, rfl, hd⟩ := Option.map_eq_some_iff.1 hmap
  rw [(h x (List.mem_cons_of_mem _ (List.mem_cons_of_mem _ hx)) d).1 hd] at hc
  exact hc rfl

/-- A text is told from its lower case between others by a sigma that they change. -/
theorem map_lower_ne {u v : List Char} (h : KeepsLetters f)
    (hsigma : lowerSigma (u.reverse ++ before) (v ++ after) ≠ lowerSigma u.reverse v) :
    (lower (u ++ 'Σ' :: v)).map f ≠ lowerBetween before after (u ++ 'Σ' :: v) := by
  intro hsame
  rw [lower_eq_lowerBetween, lowerBetween_sigma, lowerBetween_sigma, List.map_append,
    List.map_cons, h.lowerSigma] at hsame
  simp only [List.append_nil] at hsame
  have hlength : ((lowerBetween [] ('Σ' :: v) u).map f).length
      = (lowerBetween before ('Σ' :: v ++ after) u).length := by
    rw [List.length_map]
    exact length_lowerBetween ..
  obtain ⟨-, hrest⟩ := List.append_inj hsame hlength
  exact hsigma (List.cons.inj hrest).1.symm

/-- **Open sigmas.**  Beside some letter a text with an open sigma is not found by its lower case,
not even after a change that keeps letters. -/
theorem exists_missing_of_open {t : List Char} (h : ¬ Settled t) :
    ∃ q, t <:+: q ∧ ∀ f, KeepsLetters f → ¬ (lower t).map f <:+: lower q := by
  simp only [Settled, Classical.not_forall, Classical.not_not] at h
  obtain ⟨u, v, rfl, hopen⟩ := h
  generalize ht : u ++ 'Σ' :: v = t
  have hlength (f : Char → Char) (before after : List Char) :
      ((lower t).map f).length = (lowerBetween before after t).length := by
    rw [List.length_map, lower_eq_lowerBetween]
    exact length_lowerBetween ..
  rcases lowerSigma_ne_of_open hopen with hchanges | hchanges
  · obtain ⟨x, hx, hhead⟩ := exists_beside (lower t).head?
    obtain ⟨hsigma, hlower, hcased⟩ := of_mem_beside hx
    refine ⟨x :: t, ⟨[x], [], by simp⟩, fun f hf => ?_⟩
    have hquery : lower (x :: t) = x :: lowerBetween [x] [] t := by
      rw [lower_eq_lowerBetween, lowerBetween, if_neg hsigma, hlower]
      rfl
    rw [hquery]
    refine not_isInfix_cons (hlength f [x] []) ?_ ?_
    · rw [← ht]
      refine map_lower_ne hf ?_
      rw [List.append_nil]
      exact hchanges x hcased
    · rw [List.head?_map]
      exact hf.ne_some hx hhead
  · obtain ⟨x, hx, hlast⟩ := exists_beside (lower t).getLast?
    obtain ⟨hsigma, hlower, hcased⟩ := of_mem_beside hx
    refine ⟨t ++ [x], ⟨[], [x], rfl⟩, fun f hf => ?_⟩
    have hquery : lower (t ++ [x]) = lowerBetween [] [x] t ++ [x] := by
      rw [lower_eq_lowerBetween, lowerBetween_append, lowerBetween, if_neg hsigma, hlower]
      rfl
    rw [hquery]
    refine not_isInfix_concat (hlength f [] [x]) ?_ ?_
    · rw [← ht]
      refine map_lower_ne hf ?_
      rw [List.append_nil]
      exact hchanges x hcased
    · rw [List.getLast?_map]
      exact hf.ne_some hx hlast

end Planwright.Text
