import Planwright.Capability.Catalog
import Planwright.Proofs.Double.Rounding
import Planwright.Proofs.FirstBest

set_option autoImplicit false

/-!
# Which capability matches

A query goes to the capability in which the confidence is highest, and to the one installed first if
there are several.  In tenths the confidence is five, two for each trigger that fires and one for
each recipe that is named, at most ten.

The confidences are doubles, and one of the sums is rounded below what it stands for: one trigger
and two recipes come out below two triggers, although both stand for nine tenths.  The doubles
compare as their standings do (`confidence_lt_iff`), and the capability that is found is the first
of the best standing.  So it is the documented one unless these two sums meet
(`findMatching_documented_iff`).
-/

namespace Planwright

open Float.Model Float.Model.UnpackedFloat

/-! ## Choosing among matches -/

theorem Catalog.better_eq_prefer :
    better = prefer fun m b : CapabilityMatch => b.confidence < m.confidence := by
  funext best m
  cases best <;> rfl

/-! ## Confidences -/

namespace InstalledCapability

/-- The documented confidence in tenths. -/
def tenths (firing hits : Nat) : Nat := min 10 (5 + 2 * firing + hits)

/-- The rank of a confidence as it is computed: twice its tenths, but one trigger and two recipes
are ranked a little lower. -/
def standing (firing hits : Nat) : Nat :=
  if firing = 1 ∧ hits = 2 then 17 else 2 * tenths firing hits

open Double

/-! ### The weights -/

theorem atLeast_base : AtLeast (scaled 1 (-1)) 0.5 :=
  atLeast_of_unpack (m := 0x10000000000000) (e := -53) (by decide) rfl (by decide) (by decide)
    (by norm_num [scaled])

theorem atLeast_triggerWeight : AtLeast (scaled 3 (-4)) 0.2 :=
  atLeast_of_unpack (m := 0x1999999999999A) (e := -55) (by decide) rfl (by decide)
    (by decide) (by norm_num [scaled])

theorem atLeast_recipeWeight : AtLeast (scaled 3 (-5)) 0.1 :=
  atLeast_of_unpack (m := 0x1999999999999A) (e := -56) (by decide) rfl (by decide)
    (by decide) (by norm_num [scaled])

/-- One trigger, and two, without recipes. -/
theorem atLeast_oneTrigger : AtLeast (scaled 5 (-3)) (0.5 + 0.2 * Float.ofNat 1) :=
  atLeast_of_unpack (m := 0x16666666666666) (e := -53) (by decide) rfl (by decide)
    (by decide) (by norm_num [scaled])

theorem atLeast_twoTriggers : AtLeast (scaled 7 (-3)) (0.5 + 0.2 * Float.ofNat 2) :=
  atLeast_of_unpack (m := 0x1CCCCCCCCCCCCD) (e := -53) (by decide) rfl (by decide)
    (by decide) (by norm_num [scaled])

variable {m r : Nat}

theorem atLeast_threeTriggers (hm : 3 ≤ m) : AtLeast 1 (0.5 + 0.2 * Float.ofNat m) := by
  have hweighted : AtLeast (scaled 1 (-1)) (0.2 * Float.ofNat m) :=
    atLeast_triggerWeight.weighted (by norm_num [scaled]) (by decide) (by decide) hm
      (isNormal_scaled (by decide) (by decide) (by decide)) (by norm_num [scaled])
  exact atLeast_base.add hweighted isNormal_one (by norm_num [scaled])

/-- What at least a number of recipes add. -/
theorem atLeast_recipes {k l : Nat} {e : Int} (hk : 0 < k) (hplaces : k.log2 ≤ 52) (hkr : k ≤ r)
    (hl : 0 < l) (hl' : l.log2 ≤ 52) (he : -1022 ≤ e) (h : scaled l e ≤ scaled 3 (-5) * k) :
    AtLeast (scaled l e) (0.1 * Float.ofNat r) :=
  atLeast_recipeWeight.weighted (scaled_pos (by decide) _).le hk hplaces hkr
    (isNormal_scaled hl hl' he) h

/-- A sum that stands for clearly more than one is not rounded below one. -/
theorem atLeast_sum (h : 3 ≤ m ∨ m = 2 ∧ 2 ≤ r ∨ m = 1 ∧ 4 ≤ r) :
    AtLeast 1 (0.5 + 0.2 * Float.ofNat m + 0.1 * Float.ofNat r) := by
  rcases h with hm | ⟨rfl, hr⟩ | ⟨rfl, hr⟩
  · rcases Nat.eq_zero_or_pos r with rfl | hr
    · exact (atLeast_threeTriggers hm).add_zero rfl
    · have hrecipes : AtLeast (scaled 1 (-4)) (0.1 * Float.ofNat r) :=
        atLeast_recipes (k := 1) (by decide) (by decide) hr (by decide) (by decide) (by decide)
          (by norm_num [scaled])
      exact (atLeast_threeTriggers hm).add hrecipes isNormal_one (by norm_num [scaled])
  · have hrecipes : AtLeast (scaled 1 (-3)) (0.1 * Float.ofNat r) :=
      atLeast_recipes (by decide) (by decide) hr (by decide) (by decide) (by decide)
        (by norm_num [scaled])
    exact atLeast_twoTriggers.add hrecipes isNormal_one (by norm_num [scaled])
  · have hrecipes : AtLeast (scaled 3 (-3)) (0.1 * Float.ofNat r) :=
      atLeast_recipes (by decide) (by decide) hr (by decide) (by decide) (by decide)
        (by norm_num [scaled])
    exact atLeast_oneTrigger.add hrecipes isNormal_one (by norm_num [scaled])

/-! ### The doubles as they compare -/

/-- Confidences that stand for one or more are one. -/
theorem unpack_confidence_of_full (hm : 0 < m) (hfull : 5 ≤ 2 * m + r) :
    (confidence m r).toModel.unpack = (1.0 : Float).toModel.unpack := by
  have hcases : (m = 2 ∧ r = 1) ∨ (m = 1 ∧ r = 3) ∨
      (3 ≤ m ∨ m = 2 ∧ 2 ≤ r ∨ m = 1 ∧ 4 ≤ r) := by omega
  rcases hcases with ⟨rfl, rfl⟩ | ⟨rfl, rfl⟩ | hclear
  · rfl
  · rfl
  · unfold confidence
    dsimp only
    split
    · rfl
    · next hnot => exact unpack_eq_one (atLeast_sum hclear) hnot

theorem standing_of_full (hfull : 5 ≤ 2 * m + r) : standing m r = 20 := by
  have hcapped : tenths m r = 10 := by
    unfold tenths
    omega
  rw [standing, if_neg (by omega), hcapped]

/-- Counts of triggers and recipes for every confidence there is. -/
def representatives : List (Nat × Nat) := [(1, 0), (1, 1), (1, 2), (2, 0), (3, 0)]

/-- Any counts rank like some of these. -/
theorem exists_representative (hm : 0 < m) :
    ∃ p ∈ representatives, (confidence m r).toModel.unpack = (confidence p.1 p.2).toModel.unpack ∧
      standing m r = standing p.1 p.2 := by
  have hcases : m = 1 ∧ r = 0 ∨ m = 1 ∧ r = 1 ∨ m = 1 ∧ r = 2 ∨ m = 2 ∧ r = 0 ∨ 5 ≤ 2 * m + r := by
    omega
  rcases hcases with ⟨rfl, rfl⟩ | ⟨rfl, rfl⟩ | ⟨rfl, rfl⟩ | ⟨rfl, rfl⟩ | hfull
  · exact ⟨(1, 0), by decide, rfl, rfl⟩
  · exact ⟨(1, 1), by decide, rfl, rfl⟩
  · exact ⟨(1, 2), by decide, rfl, rfl⟩
  · exact ⟨(2, 0), by decide, rfl, rfl⟩
  · refine ⟨(3, 0), by decide, ?_, standing_of_full hfull⟩
    rw [unpack_confidence_of_full hm hfull, unpack_confidence_of_full (by decide) (by decide)]

/-- Confidences compare as their standings do. -/
theorem confidence_lt_iff {m' r' : Nat} (hm : 0 < m) (hm' : 0 < m') :
    confidence m r < confidence m' r' ↔ standing m r < standing m' r' := by
  have hrepresentatives : ∀ p ∈ representatives, ∀ p' ∈ representatives,
      (confidence p.1 p.2 < confidence p'.1 p'.2 ↔ standing p.1 p.2 < standing p'.1 p'.2) := by
    decide +kernel
  obtain ⟨p, hp, hconfidence, hstanding⟩ := exists_representative (r := r) hm
  obtain ⟨p', hp', hconfidence', hstanding'⟩ := exists_representative (r := r') hm'
  rw [lt_congr hconfidence hconfidence', hstanding, hstanding']
  exact hrepresentatives p hp p' hp'

theorem standing_lt_of_tenths_lt {m' r' : Nat} (h : tenths m r < tenths m' r') :
    standing m r < standing m' r' := by
  unfold standing tenths at *
  split <;> split <;> omega

/-- Only one trigger and two recipes are ranked below what stands for as much: two triggers. -/
theorem standing_le_of_tenths_le {m' r' : Nat} (hm : 0 < m) (h : tenths m r ≤ tenths m' r')
    (hmeet : ¬ (m' = 1 ∧ r' = 2 ∧ m = 2 ∧ r = 0)) : standing m r ≤ standing m' r' := by
  unfold standing tenths at *
  split <;> split <;> omega

end InstalledCapability

/-! ## What is found -/

namespace Catalog

open InstalledCapability

variable (k : Catalog) (query : String)

/-- The capabilities that a query fires a trigger of, in the order of their installation. -/
def candidates : List (String × InstalledCapability) :=
  k.capabilities.filter fun c => decide (c.2.firing query ≠ 0)

/-- A capability is the first of the best among the candidates, by a score of the triggers that fire
and the recipes that are named. -/
def IsWinner (score : Nat → Nat → Nat) (c : String × InstalledCapability) : Prop :=
  FirstBest (fun c => score (c.2.firing query) (c.2.recipeHits query)) (k.candidates query) c

/-- The match of a candidate. -/
def matchOf (c : String × InstalledCapability) : CapabilityMatch :=
  ⟨c.1, confidence (c.2.firing query) (c.2.recipeHits query), c.2.firing query⟩

variable {k query}

theorem mem_candidates {c : String × InstalledCapability} :
    c ∈ k.candidates query ↔ c ∈ k.capabilities ∧ c.2.firing query ≠ 0 := by
  rw [candidates, List.mem_filter, decide_eq_true_eq]

theorem match?_eq_some {c : String × InstalledCapability} (h : c ∈ k.candidates query) :
    c.2.match? c.1 query = some (matchOf query c) :=
  if_neg (mem_candidates.1 h).2

theorem matches_eq_map (cs : List (String × InstalledCapability)) :
    cs.filterMap (fun c => c.2.match? c.1 query)
      = (cs.filter fun c => decide (c.2.firing query ≠ 0)).map (matchOf query) := by
  induction cs with
  | nil => rfl
  | cons c rest ih =>
      by_cases hfires : c.2.firing query = 0
      · simpa [match?, hfires] using ih
      · simpa [match?, matchOf, hfires] using ih

theorem findMatching_eq_foldl :
    k.findMatching query = ((k.candidates query).map (matchOf query)).foldl better none := by
  rw [findMatching, candidates, matches_eq_map]

/-- What is found is the first capability of the best standing. -/
theorem findMatching_of_isWinner_standing {c : String × InstalledCapability}
    (h : k.IsWinner query standing c) : k.findMatching query = c.2.match? c.1 query := by
  rw [findMatching_eq_foldl, match?_eq_some h.mem, better_eq_prefer]
  refine foldl_prefer_of_firstBest h fun y hy z hz => confidence_lt_iff ?_ ?_
  · exact Nat.pos_of_ne_zero (mem_candidates.1 hy).2
  · exact Nat.pos_of_ne_zero (mem_candidates.1 hz).2

theorem exists_isWinner (score : Nat → Nat → Nat) (hne : k.candidates query ≠ []) :
    ∃ c, k.IsWinner query score c :=
  FirstBest.exists_of_ne_nil _ hne

theorem findMatching_eq_none_iff : k.findMatching query = none ↔ k.candidates query = [] := by
  constructor
  · intro hnone
    by_contra hne
    obtain ⟨w, hw⟩ := exists_isWinner standing hne
    rw [findMatching_of_isWinner_standing hw, match?_eq_some hw.mem] at hnone
    exact Option.some_ne_none _ hnone
  · intro hempty
    rw [findMatching_eq_foldl, hempty]
    rfl

theorem candidates_eq_nil_iff :
    k.candidates query = [] ↔ ∀ c ∈ k.capabilities, c.2.firing query = 0 := by
  simp [candidates, List.filter_eq_nil_iff]

/-- A best candidate is the first of the best standing too, unless the two sums meet that are
rounded apart. -/
theorem isWinner_standing_of_tenths {c : String × InstalledCapability}
    (h : k.IsWinner query tenths c)
    (hmeet : ¬ (c.2.firing query = 1 ∧ c.2.recipeHits query = 2 ∧
      ∃ d ∈ k.capabilities, d.2.firing query = 2 ∧ d.2.recipeHits query = 0)) :
    k.IsWinner query standing c := by
  refine FirstBest.of_le h (fun y _ hlt => standing_lt_of_tenths_lt hlt) fun y hy => ?_
  obtain ⟨hinstalled, hfires⟩ := mem_candidates.1 hy
  refine standing_le_of_tenths_le (Nat.pos_of_ne_zero hfires) (h.le hy) ?_
  rintro ⟨hone, htwo, hy⟩
  exact hmeet ⟨hone, htwo, y, hinstalled, hy⟩

/-- One trigger and two recipes are not found where two triggers compete. -/
theorem findMatching_ne_of_meet {c d : String × InstalledCapability}
    (h : k.IsWinner query tenths c) (hone : c.2.firing query = 1) (htwo : c.2.recipeHits query = 2)
    (hd : d ∈ k.capabilities) (hfiring : d.2.firing query = 2) (hhits : d.2.recipeHits query = 0) :
    k.findMatching query ≠ c.2.match? c.1 query := by
  intro hfound
  have hdc : d ∈ k.candidates query := mem_candidates.2 ⟨hd, by omega⟩
  obtain ⟨w, hw⟩ := exists_isWinner standing (List.ne_nil_of_mem hdc)
  rw [findMatching_of_isWinner_standing hw, match?_eq_some hw.mem, match?_eq_some h.mem] at hfound
  have hsame : w.2.firing query = c.2.firing query :=
    congrArg CapabilityMatch.matchedTriggers (Option.some.inj hfound)
  have hstanding : 18 ≤ standing (w.2.firing query) (w.2.recipeHits query) := by
    have hle := hw.le hdc
    rwa [hfiring, hhits] at hle
  have htenths : tenths (w.2.firing query) (w.2.recipeHits query) ≤ 9 := by
    have hle := h.le hw.mem
    rwa [hone, htwo] at hle
  rw [hsame, hone] at hstanding htenths
  unfold standing at hstanding
  unfold tenths at hstanding htenths
  split at hstanding <;> omega

/-- **What is found.**  Nothing is found exactly if no trigger fires.  Otherwise the first
capability of the best standing is found.  This is the first one of the best documented confidence,
unless that one has one trigger and two recipes and there is another with two triggers and no
recipe. -/
theorem findMatching_documented_iff (k : Catalog) (query : String) :
    (k.findMatching query = none ↔ ∀ c ∈ k.capabilities, c.2.firing query = 0) ∧
    (k.findMatching query ≠ none → ∃ c, k.IsWinner query tenths c) ∧
    (∀ c, k.IsWinner query standing c → k.findMatching query = c.2.match? c.1 query) ∧
    ∀ c, k.IsWinner query tenths c →
      (k.findMatching query = c.2.match? c.1 query ↔
        ¬ (c.2.firing query = 1 ∧ c.2.recipeHits query = 2 ∧
          ∃ d ∈ k.capabilities, d.2.firing query = 2 ∧ d.2.recipeHits query = 0)) := by
  refine ⟨findMatching_eq_none_iff.trans candidates_eq_nil_iff, fun hfound => ?_,
    fun c => findMatching_of_isWinner_standing, fun c hc => ⟨?_, fun hmeet => ?_⟩⟩
  · exact exists_isWinner tenths (mt findMatching_eq_none_iff.2 hfound)
  · rintro hfound ⟨hone, htwo, d, hd, hfiring, hhits⟩
    exact findMatching_ne_of_meet hc hone htwo hd hfiring hhits hfound
  · exact findMatching_of_isWinner_standing (isWinner_standing_of_tenths hc hmeet)

/-- One trigger and two recipes come first and stand for nine tenths, as two triggers do.  But the
capability that was installed later is found. -/
theorem findMatching_prefers_later :
    let first : InstalledCapability :=
      ⟨"1", [.literal "alpha".toList], [("one", default), ("two", default)], [], []⟩
    let later : InstalledCapability :=
      ⟨"1", [.literal "alpha".toList, .literal "beta".toList], [("three", default)], [], []⟩
    let k : Catalog := ⟨[("first", first), ("later", later)], [], .empty .standard⟩
    let query := "alpha beta one two"
    k.IsWinner query tenths ("first", first) ∧
      k.findMatching query = later.match? "later" query ∧
      k.findMatching query ≠ first.match? "first" query := by
  intro first later k query
  have hone : first.firing query = 1 := by decide +kernel
  have htwo : first.recipeHits query = 2 := by decide +kernel
  have hfiring : later.firing query = 2 := by decide +kernel
  have hhits : later.recipeHits query = 0 := by decide +kernel
  have hcandidates : k.candidates query = [("first", first), ("later", later)] := by
    simp [candidates, k, hone, hfiring]
  have hdocumented : k.IsWinner query tenths ("first", first) := by
    refine ⟨[], [("later", later)], hcandidates, List.forall_mem_nil _, ?_⟩
    simp [tenths, hone, htwo, hfiring, hhits]
  have hstanding : k.IsWinner query standing ("later", later) := by
    refine ⟨[("first", first)], [], hcandidates, ?_, List.forall_mem_nil _⟩
    simp [standing, tenths, hone, htwo, hfiring, hhits]
  have hinstalled : ("later", later) ∈ k.capabilities := by simp [k]
  exact ⟨hdocumented, findMatching_of_isWinner_standing hstanding,
    findMatching_ne_of_meet hdocumented hone htwo hinstalled hfiring hhits⟩

end Catalog

end Planwright
