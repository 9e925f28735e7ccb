import Planwright.Capability.Catalog
import Planwright.Proofs.Text.Lowering

set_option autoImplicit false

/-!
# Queries that hold a text as it is written

A plain trigger fires on the queries that hold its text in any case, and a recipe is named by those
that hold its name in any case.  Text and query go to lower case each for itself, and so a query
that holds the very text may be missed: exactly those texts are never missed in which no capital
sigma stands open (`found_as_written_iff`).
-/

namespace Planwright

open Text (Settled KeepsLetters)

/-- Whether a query holds a text as it is written. -/
def holds (query text : String) : Bool := Text.occursIn text.toList query.toList

/-! ## Triggers -/

namespace Trigger

variable {text query : String}

theorem fires_literal_iff :
    (literal (Text.lower text.toList)).fires query = true ↔
      Text.lower text.toList <:+: Text.lower query.toList :=
  Text.occursIn_iff

theorem fires_of_settled (h : Settled text.toList) (hholds : holds query text = true) :
    (literal (Text.lower text.toList)).fires query = true :=
  fires_literal_iff.2 (Text.lower_isInfix_of_settled h (Text.occursIn_iff.1 hholds))

end Trigger

/-! ## Names of recipes -/

namespace InstalledCapability

variable {name query : String}

theorem namesRecipe_iff :
    namesRecipe query name = true ↔
      Text.lower name.toList <:+: Text.lower query.toList ∨
        spaced (Text.lower name.toList) <:+: Text.lower query.toList := by
  rw [namesRecipe, Bool.or_eq_true, Text.occursIn_iff, Text.occursIn_iff]

theorem namesRecipe_of_settled (h : Settled name.toList) (hholds : holds query name = true) :
    namesRecipe query name = true :=
  namesRecipe_iff.2 (.inl (Text.lower_isInfix_of_settled h (Text.occursIn_iff.1 hholds)))

/-- Blanks for low lines and hyphens leave letters alone. -/
theorem keepsLetters_spaced :
    KeepsLetters fun c => if c == '_' || c == '-' then ' ' else c := by
  intro x hx c
  have hplain : x ≠ ' ' ∧ x ≠ '_' ∧ x ≠ '-' := by
    simp only [Text.beside, List.mem_cons, List.not_mem_nil, or_false] at hx
    rcases hx with rfl | rfl | rfl | rfl <;> decide
  dsimp only
  split
  · next hc =>
    have hmarks : c = '_' ∨ c = '-' := by simpa using hc
    refine ⟨fun h => absurd h.symm hplain.1, ?_⟩
    rintro rfl
    exact absurd hmarks (not_or.2 hplain.2)
  · exact Iff.rfl

/-- The capability with one more recipe. -/
def withTemplate (c : InstalledCapability) (name : String) (r : Recipe) : InstalledCapability :=
  { c with templates := c.templates ++ [(name, r)] }

theorem recipeHits_withTemplate (c : InstalledCapability) (name : String) (r : Recipe)
    (query : String) :
    (c.withTemplate name r).recipeHits query
      = c.recipeHits query + if namesRecipe query name then 1 else 0 := by
  unfold recipeHits withTemplate
  rw [Dict.keys, List.map_append, List.countP_append, List.map_singleton, List.countP_singleton]
  rfl

theorem counts_iff {c : InstalledCapability} {r : Recipe} :
    (c.withTemplate name r).recipeHits query = c.recipeHits query + 1 ↔
      namesRecipe query name = true := by
  rw [recipeHits_withTemplate]
  cases namesRecipe query name <;> simp

end InstalledCapability

/-! ## Texts that are missed -/

open InstalledCapability

/-- A text with an open sigma is missed in some query that holds it, by its trigger and as the name
of a recipe. -/
theorem exists_query_missing {text : String} (h : ¬ Settled text.toList) :
    ∃ query, holds query text = true ∧
      (Trigger.literal (Text.lower text.toList)).fires query = false ∧
      namesRecipe query text = false := by
  obtain ⟨q, hholds, hmissing⟩ := Text.exists_missing_of_open h
  have hplain : ¬ Text.lower text.toList <:+: Text.lower q := by
    have hsame := hmissing id fun _ _ _ => Iff.rfl
    rwa [List.map_id] at hsame
  refine ⟨String.ofList q, ?_, ?_, ?_⟩
  · rwa [holds, String.toList_ofList, Text.occursIn_iff]
  · rwa [← Bool.not_eq_true, Trigger.fires_literal_iff, String.toList_ofList]
  · rw [← Bool.not_eq_true, namesRecipe_iff, String.toList_ofList]
    exact not_or.2 ⟨hplain, hmissing _ keepsLetters_spaced⟩

/-- **Queries that hold a text as it is written.**  Exactly if no capital sigma of the text stands
open, the trigger of the text fires on all of them; and exactly then a recipe of this name is
counted for all of them, whatever other recipes a capability has. -/
theorem found_as_written_iff (text : String) :
    ((∃ trigger, Trigger.compile (.literal text) = .ok trigger ∧
        ∀ query, holds query text = true → trigger.fires query = true) ↔ Settled text.toList) ∧
      ((∀ (c : InstalledCapability) (r : Recipe) (query : String), holds query text = true →
        (c.withTemplate text r).recipeHits query = c.recipeHits query + 1) ↔
          Settled text.toList) := by
  refine ⟨⟨?_, fun h => ⟨_, rfl, fun query => Trigger.fires_of_settled h⟩⟩,
    ⟨?_, fun h c r query hholds => counts_iff.2 (namesRecipe_of_settled h hholds)⟩⟩
  · rintro ⟨trigger, hcompile, hfires⟩
    obtain rfl := Except.ok.inj hcompile
    refine Classical.byContradiction fun hopen => ?_
    obtain ⟨query, hholds, hmissed, -⟩ := exists_query_missing hopen
    cases hmissed.symm.trans (hfires query hholds)
  · intro hcounts
    refine Classical.byContradiction fun hopen => ?_
    obtain ⟨query, hholds, -, hmissed⟩ := exists_query_missing hopen
    have hnamed := counts_iff.1 (hcounts ⟨"", [], [], [], []⟩ default query hholds)
    cases hmissed.symm.trans hnamed

/-- A word that ends with a capital sigma is not found where the word goes on. -/
theorem word_goes_on :
    holds "ΟΔΟΣΑ" "ΟΔΟΣ" = true ∧
      Trigger.compile (.literal "ΟΔΟΣ") = .ok (.literal "οδος".toList) ∧
      (Trigger.literal "οδος".toList).fires "ΟΔΟΣΑ" = false ∧
      namesRecipe "ΟΔΟΣΑ" "ΟΔΟΣ" = false := by
  have hlower : Text.lower "ΟΔΟΣ".toList = "οδος".toList := by decide +kernel
  refine ⟨by decide +kernel, ?_, by decide +kernel, by decide +kernel⟩
  rw [Trigger.compile, hlower]

end Planwright
