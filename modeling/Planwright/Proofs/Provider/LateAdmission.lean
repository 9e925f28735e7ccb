import Planwright.Proofs.Provider.Budget
import Mathlib.Logic.Relation

set_option autoImplicit false

/-!
# Admissions out of order

A caller reads the clock before it asks for a place, and others may come in between.  So places may
be asked for in another order than that of the instants that were read, while the window forgets in
the order in which it has recorded.  An instant that was read late and recorded early is then
forgotten too soon.

The system of callers is a step relation (`Gate.Step`), in which any number of callers interleave in
any way; their patience bounds how long after its reading one of them asks.  A single unit of time
is enough to overdraw a budget of two requests or more (`exists_overdrawn`), and the budget is kept
in every interleaving exactly if it is a single request or callers ask at the instant that they have
read (`budget_kept_iff`).  What a delay costs is bounded: stretches that are shorter than the window
by the delay keep the budget.
-/

namespace Planwright

open Relation (ReflTransGen)

/-- The callers of one provider. -/
structure Gate where
  clock : Nat
  /-- the instants read by callers that have not asked yet -/
  waiting : List Nat
  entry : ProviderEntry
  /-- the instants of the requests admitted so far, in the order of their admission -/
  admitted : List Nat

namespace Gate

/-- A provider that nobody has called yet. -/
def opening (clock : Nat) (e : ProviderEntry) : Gate := ⟨clock, [], e, []⟩

/-- One of the callers asks for a place at the instant that it has read. -/
def ask (g : Gate) (t : Nat) : Gate :=
  { g with
    waiting := g.waiting.erase t
    entry := (g.entry.tryAdmit t).2
    admitted := if (g.entry.tryAdmit t).1 then g.admitted ++ [t] else g.admitted }

/-- What may happen next: time passes, a new caller reads the clock, or one that has read it asks
for a place.  If callers have a patience, they ask no later than this after they have read. -/
inductive Step (patience : Option Nat) : Gate → Gate → Prop where
  | pass (g : Gate) {later : Nat} (h : g.clock ≤ later) : Step patience g { g with clock := later }
  | read (g : Gate) : Step patience g { g with waiting := g.clock :: g.waiting }
  | ask (g : Gate) {t : Nat} (waits : t ∈ g.waiting) (soon : ∀ d ∈ patience, g.clock ≤ t + d) :
      Step patience g (g.ask t)

/-- What may happen in the course of time, callers interleaving in any way. -/
abbrev Reaches (patience : Option Nat) : Gate → Gate → Prop := ReflTransGen (Step patience)

/-! ## Runs -/

variable {patience : Option Nat}

theorem reaches_passing (g : Gate) {later : Nat} (h : g.clock ≤ later) :
    Reaches patience g { g with clock := later } := .single (.pass g h)

/-- So many callers read the clock at once. -/
theorem reaches_reading (g : Gate) (count : Nat) :
    Reaches patience g { g with waiting := List.replicate count g.clock ++ g.waiting } := by
  induction count with
  | zero => exact .refl
  | succ count ih => exact .tail ih (.read _)

/-- Callers who have read the clock ask in any order, as long as their patience lasts. -/
theorem reaches_asking (g : Gate) (readings : List Nat) (hwaiting : g.waiting.Perm readings)
    (hsoon : ∀ t ∈ readings, ∀ d ∈ patience, g.clock ≤ t + d) :
    Reaches patience g
      ⟨g.clock, [], g.entry.asked readings, g.admitted ++ g.entry.admitted readings⟩ := by
  induction readings generalizing g with
  | nil =>
      obtain ⟨clock, waiting, e, past⟩ := g
      obtain rfl : waiting = [] := hwaiting.eq_nil
      have hpast : past ++ e.admitted [] = past := List.append_nil past
      rw [hpast]
      exact .refl
  | cons t rest ih =>
      have hask : Step patience g (g.ask t) :=
        .ask g (hwaiting.symm.subset List.mem_cons_self) (hsoon t List.mem_cons_self)
      have hrest : (g.ask t).waiting.Perm rest := by
        simpa [ask] using hwaiting.erase t
      have hreaches := ih (g.ask t) hrest fun u hu => hsoon u (List.mem_cons_of_mem t hu)
      have hadmitted : (g.ask t).admitted ++ (g.ask t).entry.admitted rest
          = g.admitted ++ g.entry.admitted (t :: rest) := by
        rw [ProviderEntry.admitted, ← List.append_assoc]
        simp only [ask]
        split <;> simp
      rw [hadmitted] at hreaches
      exact .head hask hreaches

/-! ## What every run keeps -/

variable {g g' : Gate} {l : RateLimit}

theorem reaches_keeps {P : Gate → Prop} (hstep : ∀ g g', Step patience g g' → P g → P g')
    (h : Reaches patience g g') (hg : P g) : P g' := by
  induction h with
  | refl => exact hg
  | tail _ hlast ih => exact hstep _ _ hlast ih

/-- A property of the entry and the admissions is kept if asking keeps it. -/
theorem step_keeps {P : ProviderEntry → List Nat → Prop}
    (hask : ∀ e past t, P e past →
      P (e.tryAdmit t).2 (if (e.tryAdmit t).1 then past ++ [t] else past))
    (h : Step patience g g') (hg : P g.entry g.admitted) : P g'.entry g'.admitted := by
  cases h with
  | pass _ => exact hg
  | read => exact hg
  | ask _ _ => exact hask _ _ _ hg

/-- What is known of the instants if callers are patient for no longer than a delay: nobody has read
one that is still to come, and of two admissions the later one is at most this delay earlier. -/
structure Prompt (l : RateLimit) (delay : Nat) (g : Gate) : Prop where
  remembers : g.entry.Remembers l g.admitted
  waiting : ∀ t ∈ g.waiting, t ≤ g.clock
  past : ∀ t ∈ g.admitted, t ≤ g.clock
  order : g.admitted.Pairwise fun a b => a ≤ b + delay
  sparse : Sparse l.requests (l.windowMs - delay) g.admitted

theorem Prompt.opening {e : ProviderEntry} (he : e.Remembers l []) (delay clock : Nat) :
    Prompt l delay (opening clock e) where
  remembers := he
  waiting := List.forall_mem_nil _
  past := List.forall_mem_nil _
  order := List.Pairwise.nil
  sparse := Sparse.nil _ _

theorem Prompt.ask (hlimit : 0 < l.requests) {delay t : Nat} (hg : Prompt l delay g)
    (hwaits : t ∈ g.waiting) (hsoon : g.clock ≤ t + delay) : Prompt l delay (g.ask t) := by
  have hremembers := ProviderEntry.tryAdmit_remembers hg.remembers t
  have hwaiting : ∀ u ∈ g.waiting.erase t, u ≤ g.clock := fun u hu =>
    hg.waiting u (List.mem_of_mem_erase hu)
  cases hadmits : (g.entry.tryAdmit t).1 with
  | false =>
      have hadmitted : (g.ask t).admitted = g.admitted := by simp [Gate.ask, hadmits]
      rw [hadmits, if_neg Bool.false_ne_true, ← hadmitted] at hremembers
      refine ⟨hremembers, hwaiting, ?past, ?order, ?sparse⟩ <;> rw [hadmitted]
      case past => exact hg.past
      case order => exact hg.order
      case sparse => exact hg.sparse
  | true =>
      have hadmitted : (g.ask t).admitted = g.admitted ++ [t] := by simp [Gate.ask, hadmits]
      have hanswer := ProviderEntry.tryAdmit_answer hg.remembers t
      rw [hadmits, if_pos rfl, ← hadmitted] at hremembers
      rw [hadmits, Nat.max_eq_left hlimit] at hanswer
      refine ⟨hremembers, hwaiting, ?past, ?order, ?sparse⟩ <;> rw [hadmitted]
      case past =>
        exact List.forall_mem_append.2
          ⟨hg.past, List.forall_mem_singleton.2 (hg.waiting t hwaits)⟩
      case order =>
        refine List.pairwise_append.2 ⟨hg.order, List.pairwise_singleton _ _, ?_⟩
        intro a ha b hb
        rw [List.mem_singleton.1 hb]
        exact (hg.past a ha).trans hsoon
      case sparse => exact hg.sparse.concat hg.order (of_decide_eq_true hanswer.symm)

theorem Prompt.step (hlimit : 0 < l.requests) {delay : Nat} (h : Step (some delay) g g')
    (hg : Prompt l delay g) : Prompt l delay g' := by
  cases h with
  | pass hlater =>
      exact { hg with
        waiting := fun t ht => (hg.waiting t ht).trans hlater
        past := fun t ht => (hg.past t ht).trans hlater }
  | read =>
      exact { hg with waiting := List.forall_mem_cons.2 ⟨Nat.le_refl _, hg.waiting⟩ }
  | ask hwaits hsoon => exact hg.ask hlimit hwaits (hsoon delay rfl)

/-- If callers ask no later than a delay after they have read the clock, stretches that are shorter
than the window by this delay keep the budget. -/
theorem sparse_of_reaches_within (hlimit : 0 < l.requests) {delay clock : Nat} {e : ProviderEntry}
    (he : e.Remembers l []) (h : Reaches (some delay) (opening clock e) g) :
    Sparse l.requests (l.windowMs - delay) g.admitted := by
  have hprompt := reaches_keeps (fun _ _ => Prompt.step hlimit) h (Prompt.opening he delay clock)
  exact hprompt.sparse

/-! ## A budget of one request -/

/-- Of two admissions the later one is a whole window later. -/
def Spaced (w : Nat) (past : List Nat) : Prop := past.Pairwise fun a b => a + w ≤ b

theorem Spaced.sparse {w : Nat} {past : List Nat} (h : Spaced w past) : Sparse 1 w past := by
  intro start
  induction past with
  | nil => exact Nat.zero_le 1
  | cons t rest ih =>
      obtain ⟨hfirst, hrest⟩ := List.pairwise_cons.1 h
      by_cases ht : during start w t = true
      · have hnone : rest.countP (during start w) = 0 := by
          refine List.countP_eq_zero.2 fun u hu hduring => ?_
          have hlater := hfirst u hu
          rw [during_iff] at ht hduring
          omega
        rw [List.countP_cons_of_pos ht, hnone]
      · rw [List.countP_cons_of_neg ht]
        exact ih hrest

/-- If the latest admission is the only one remembered, it must lie a whole window back. -/
theorem Spaced.concat {w t : Nat} {past : List Nat} (h : Spaced w past) (hw : 0 < w)
    (hroom : RequestWindow.countWithin w t (past.rtake 1) < 1) : Spaced w (past ++ [t]) := by
  refine List.pairwise_append.2 ⟨h, List.pairwise_singleton _ _, ?_⟩
  intro a ha b hb
  obtain rfl := List.mem_singleton.1 hb
  rcases List.eq_nil_or_concat' past with rfl | ⟨earlier, last, rfl⟩
  · cases ha
  · rw [List.rtake_concat_succ, List.rtake_zero, List.nil_append] at hroom
    obtain ⟨u, hu, hrested⟩ := RequestWindow.exists_rested hroom hw
    obtain rfl := List.mem_singleton.1 hu
    rcases List.mem_append.1 ha with ha | ha
    · have hbefore := (List.pairwise_append.1 h).2.2 a ha u List.mem_cons_self
      omega
    · obtain rfl := List.mem_singleton.1 ha
      exact hrested

/-- A budget of one request is kept in every order. -/
theorem sparse_of_single (hlimit : l.requests = 1) (hw : 0 < l.windowMs) {clock : Nat}
    {e : ProviderEntry} (he : e.Remembers l []) (h : Reaches patience (opening clock e) g) :
    Sparse 1 l.windowMs g.admitted := by
  have hkept : g.entry.Remembers l g.admitted ∧ Spaced l.windowMs g.admitted := by
    refine reaches_keeps
      (P := fun g => g.entry.Remembers l g.admitted ∧ Spaced l.windowMs g.admitted)
      (fun g g' hstep => step_keeps (P := fun e past => e.Remembers l past ∧ Spaced l.windowMs past)
        ?_ hstep) h ⟨he, .nil⟩
    intro e past t hpast
    refine ⟨ProviderEntry.tryAdmit_remembers hpast.1 t, ?_⟩
    split
    · next hadmits =>
      have hanswer := ProviderEntry.tryAdmit_answer hpast.1 t
      rw [hadmits, hlimit] at hanswer
      exact hpast.2.concat hw (of_decide_eq_true hanswer.symm)
    · exact hpast.2
  exact hkept.2.sparse

end Gate

/-! ## Larger budgets -/

namespace ProviderEntry

variable {e : ProviderEntry} {l : RateLimit} {past : List Nat}

/-- What is asked for while there is room is admitted and remembered. -/
theorem admitted_of_room (h : e.Remembers l past) {t : Nat} (rest : List Nat)
    (hroom : RequestWindow.countWithin l.windowMs t (past.rtake (max l.requests 1))
      < max l.requests 1) :
    e.admitted (t :: rest) = t :: (e.tryAdmit t).2.admitted rest ∧
      (e.tryAdmit t).2.Remembers l (past ++ [t]) := by
  have hadmits : (e.tryAdmit t).1 = true := by
    rw [tryAdmit_answer h]
    exact decide_eq_true hroom
  have hnext := tryAdmit_remembers h t
  rw [hadmits, if_pos rfl] at hnext
  rw [admitted, hadmits, if_pos rfl]
  exact ⟨rfl, hnext⟩

/-- As long as there are fewer admissions than places, everything is admitted. -/
theorem admitted_of_short {instants : List Nat} (h : e.Remembers l past)
    (hshort : past.length + instants.length ≤ max l.requests 1) :
    e.admitted instants = instants := by
  induction instants generalizing e past with
  | nil => rfl
  | cons t rest ih =>
      rw [List.length_cons] at hshort
      have hcount :=
        RequestWindow.countWithin_le_length l.windowMs t (past.rtake (max l.requests 1))
      rw [length_rtake] at hcount
      have hroom : RequestWindow.countWithin l.windowMs t (past.rtake (max l.requests 1))
          < max l.requests 1 := by omega
      obtain ⟨hfirst, hnext⟩ := admitted_of_room h rest hroom
      rw [hfirst, ih hnext (by rw [List.length_append, List.length_singleton]; omega)]

/-- As long as it is among the latest, an admission that lies a whole window back lets others in. -/
theorem admitted_of_rested {older newer : List Nat} {t now count : Nat}
    (h : e.Remembers l (older ++ t :: newer)) (hrested : t + l.windowMs ≤ now)
    (hroom : newer.length + count ≤ max l.requests 1) :
    e.admitted (List.replicate count now) = List.replicate count now := by
  induction count generalizing e newer with
  | zero => rfl
  | succ count ih =>
      -- `t` is not forgotten before everything that is newer fills the places
      have hlatest : t ∈ (older ++ t :: newer).rtake (max l.requests 1) := by
        have hdrop : (older ++ t :: newer).length - max l.requests 1 ≤ older.length := by
          rw [List.length_append, List.length_cons]
          omega
        rw [List.rtake, List.drop_append_of_le_length hdrop]
        exact List.mem_append_right _ List.mem_cons_self
      have hcount : RequestWindow.countWithin l.windowMs now
          ((older ++ t :: newer).rtake (max l.requests 1)) < max l.requests 1 := by
        have hlength : ((older ++ t :: newer).rtake (max l.requests 1)).length
            ≤ max l.requests 1 := by
          rw [length_rtake]
          exact Nat.min_le_left _ _
        refine lt_of_lt_of_le (List.length_filter_lt_length_iff_exists.2 ⟨t, hlatest, ?_⟩) hlength
        simp only [decide_eq_true_eq]
        omega
      obtain ⟨hfirst, hnext⟩ := admitted_of_room h (List.replicate count now) hcount
      rw [List.append_assoc, List.cons_append] at hnext
      have hrest := ih hnext (by rw [List.length_append, List.length_singleton]; omega)
      rw [List.replicate_succ, hfirst, hrest]

/-- Instants in an order in which they fill a budget: one that is read last comes first. -/
def early (l : RateLimit) (clock : Nat) : List Nat :=
  (clock + 1) :: List.replicate (l.requests - 1) clock

/-- As many instants as the budget has places, a whole window after the clock. -/
def late (l : RateLimit) (clock : Nat) : List Nat :=
  List.replicate l.requests (clock + l.windowMs)

theorem admitted_early (h : e.Remembers l []) (hlimit : 0 < l.requests) (clock : Nat) :
    e.admitted (early l clock) = early l clock := by
  refine admitted_of_short h ?_
  simp only [early, List.length_nil, List.length_cons, List.length_replicate]
  omega

/-- The last of the early ones lets all the late ones in, although the first of them still
counts. -/
theorem admitted_late (h : e.Remembers l []) (hlimit : 1 < l.requests) (clock : Nat) :
    (e.asked (early l clock)).admitted (late l clock) = late l clock := by
  obtain ⟨k, hk⟩ : ∃ k, l.requests - 1 = k + 1 := ⟨l.requests - 2, by omega⟩
  have hsplit : early l clock = ((clock + 1) :: List.replicate k clock) ++ clock :: [] := by
    rw [early, hk, List.replicate_succ', List.cons_append]
  have hremembers : (e.asked (early l clock)).Remembers l
      (((clock + 1) :: List.replicate k clock) ++ clock :: []) := by
    have hasked := asked_remembers h (early l clock)
    rw [admitted_early h (by omega), List.nil_append] at hasked
    rw [← hsplit]
    exact hasked
  have hplaces : ([] : List Nat).length + l.requests ≤ max l.requests 1 := by
    rw [List.length_nil]
    omega
  exact admitted_of_rested hremembers (Nat.le_refl _) hplaces

theorem not_sparse_early_late (hw : 0 < l.windowMs) (clock : Nat) :
    ¬ Sparse l.requests l.windowMs (early l clock ++ late l clock) := by
  intro hsparse
  have hcount := hsparse (clock + 1)
  have hfirst : during (clock + 1) l.windowMs (clock + 1) = true := during_iff.2 (by omega)
  have hlast : during (clock + 1) l.windowMs (clock + l.windowMs) = true :=
    during_iff.2 (by omega)
  rw [early, late, List.countP_append, List.countP_cons_of_pos hfirst, List.countP_replicate,
    List.countP_replicate, if_pos hlast] at hcount
  omega

end ProviderEntry

namespace Gate

variable {patience : Option Nat} {l : RateLimit} {e : ProviderEntry}

/-- All callers but one read the clock, and the last reads it when it has moved on by one unit, but
asks before the others. -/
theorem reaches_early (hpatience : ∀ d ∈ patience, 0 < d) (e : ProviderEntry) (l : RateLimit)
    (clock : Nat) :
    Reaches patience (opening clock e)
      ⟨clock + 1, [], e.asked (ProviderEntry.early l clock),
        e.admitted (ProviderEntry.early l clock)⟩ := by
  have hread : Reaches patience (opening clock e)
      ⟨clock, List.replicate (l.requests - 1) clock ++ [], e, []⟩ :=
    reaches_reading (opening clock e) (l.requests - 1)
  have hpass : Reaches patience ⟨clock, List.replicate (l.requests - 1) clock ++ [], e, []⟩
      ⟨clock + 1, List.replicate (l.requests - 1) clock ++ [], e, []⟩ :=
    reaches_passing _ (Nat.le_succ clock)
  have hlast : Reaches patience ⟨clock + 1, List.replicate (l.requests - 1) clock ++ [], e, []⟩
      ⟨clock + 1, (clock + 1) :: (List.replicate (l.requests - 1) clock ++ []), e, []⟩ :=
    .single (.read _)
  have hask : Reaches patience _ _ := reaches_asking
    ⟨clock + 1, (clock + 1) :: (List.replicate (l.requests - 1) clock ++ []), e, []⟩
    (ProviderEntry.early l clock) (by rw [List.append_nil]; rfl) ?soon
  · exact ((hread.trans hpass).trans hlast).trans hask
  case soon =>
    intro t ht d hd
    have hpositive := hpatience d hd
    rcases List.mem_cons.1 ht with rfl | ht
    · exact Nat.le_add_right _ _
    · rw [List.eq_of_mem_replicate ht]
      exact Nat.add_le_add_left hpositive clock

/-- So many callers read the clock and ask at once. -/
theorem reaches_at_once (clock count : Nat) (e : ProviderEntry) (past : List Nat) :
    Reaches patience ⟨clock, [], e, past⟩
      ⟨clock, [], e.asked (List.replicate count clock),
        past ++ e.admitted (List.replicate count clock)⟩ := by
  have hread : Reaches patience ⟨clock, [], e, past⟩
      ⟨clock, List.replicate count clock ++ [], e, past⟩ := reaches_reading _ count
  have hask : Reaches patience _ _ := reaches_asking
    ⟨clock, List.replicate count clock ++ [], e, past⟩ (List.replicate count clock)
    (by rw [List.append_nil])
    fun t ht d _ => by
      rw [List.eq_of_mem_replicate ht]
      exact Nat.le_add_right _ _
  exact hread.trans hask

/-- Unless callers ask at the instant that they have read, a budget of two requests or more can be
overdrawn: a caller that has read late and asks early is forgotten while it still counts. -/
theorem exists_overdrawn (hlimit : 1 < l.requests) (hw : 0 < l.windowMs)
    (hpatience : ∀ d ∈ patience, 0 < d) (he : e.Remembers l []) (clock : Nat) :
    ∃ g, Reaches patience (opening clock e) g ∧ ¬ Sparse l.requests l.windowMs g.admitted := by
  have hfirst := reaches_early hpatience e l clock
  have hpass : Reaches patience
      ⟨clock + 1, [], e.asked (ProviderEntry.early l clock),
        e.admitted (ProviderEntry.early l clock)⟩
      ⟨clock + l.windowMs, [], e.asked (ProviderEntry.early l clock),
        e.admitted (ProviderEntry.early l clock)⟩ :=
    reaches_passing _ (Nat.add_le_add_left hw clock)
  have hsecond : Reaches patience _ _ := reaches_at_once (clock + l.windowMs) l.requests
    (e.asked (ProviderEntry.early l clock)) (e.admitted (ProviderEntry.early l clock))
  have hlate := ProviderEntry.admitted_late he hlimit clock
  rw [ProviderEntry.late] at hlate
  rw [hlate, ProviderEntry.admitted_early he (by omega)] at hsecond
  rw [ProviderEntry.admitted_early he (by omega)] at hfirst hpass
  exact ⟨_, (hfirst.trans hpass).trans hsecond,
    ProviderEntry.not_sparse_early_late hw clock⟩

/-- An entry without places admits one request all the same. -/
theorem exists_admitted (hnone : l.requests = 0) (hw : 0 < l.windowMs) (he : e.Remembers l [])
    (clock : Nat) :
    ∃ g, Reaches patience (opening clock e) g ∧ ¬ Sparse l.requests l.windowMs g.admitted := by
  have hreaches : Reaches patience _ _ := reaches_at_once clock 1 e []
  have hadmitted : e.admitted (List.replicate 1 clock) = [clock] :=
    ProviderEntry.admitted_of_short he (by
      simp only [List.length_nil, List.length_replicate]
      omega)
  rw [hadmitted] at hreaches
  refine ⟨_, hreaches, fun hsparse => ?_⟩
  have hcount := hsparse clock
  have hduring : during clock l.windowMs clock = true := during_iff.2 (by omega)
  rw [List.nil_append, List.countP_cons_of_pos hduring] at hcount
  omega

/-! ## When a budget is kept -/

/-- **Overdrawing.**  However callers interleave that read the clock before they ask, no stretch as
long as the window has more admissions than the limit: this is so exactly if the limit is a single
request, or if callers ask at the instant that they have read (or if the window is empty).  If they
ask no later than some delay after they have read, it is so of stretches that are shorter than the
window by this delay. -/
theorem budget_kept_iff (id : String) (m : Manifest) (owner : Option String) (l : RateLimit)
    (clock : Nat) (patience : Option Nat) :
    ((∀ g, Reaches patience (opening clock (.new id { m with rateLimit := some l } owner)) g →
        Sparse l.requests l.windowMs g.admitted) ↔
      l.windowMs = 0 ∨ l.requests = 1 ∨ (0 < l.requests ∧ patience = some 0)) ∧
    ∀ delay ∈ patience, 0 < l.requests →
      ∀ g, Reaches patience (opening clock (.new id { m with rateLimit := some l } owner)) g →
        Sparse l.requests (l.windowMs - delay) g.admitted := by
  have he : (ProviderEntry.new id { m with rateLimit := some l } owner).Remembers l [] :=
    ProviderEntry.remembers_new rfl id owner
  have hlate : ∀ delay ∈ patience, 0 < l.requests →
      ∀ g, Reaches patience (opening clock (.new id { m with rateLimit := some l } owner)) g →
        Sparse l.requests (l.windowMs - delay) g.admitted := by
    rintro delay rfl hlimit g hreaches
    exact sparse_of_reaches_within hlimit he hreaches
  refine ⟨⟨fun hkept => ?only, fun hl g hreaches => ?kept⟩, hlate⟩
  case only =>
    by_contra hl
    obtain ⟨hw, hone, hdelay⟩ : l.windowMs ≠ 0 ∧ l.requests ≠ 1 ∧
        ¬ (0 < l.requests ∧ patience = some 0) := by
      simpa only [not_or] using hl
    have hw := Nat.pos_of_ne_zero hw
    rcases Nat.eq_zero_or_pos l.requests with hnone | hlimit
    · obtain ⟨g, hreaches, hoverdrawn⟩ := exists_admitted hnone hw he clock
      exact hoverdrawn (hkept g hreaches)
    · have hpatience : ∀ d ∈ patience, 0 < d := by
        intro d hd
        refine Nat.pos_of_ne_zero fun hzero => hdelay ⟨hlimit, ?_⟩
        rw [Option.mem_def.1 hd, hzero]
      obtain ⟨g, hreaches, hoverdrawn⟩ := exists_overdrawn (by omega) hw hpatience he clock
      exact hoverdrawn (hkept g hreaches)
  case kept =>
    rcases hl with hw | hone | ⟨hlimit, hnow⟩
    · rw [hw]
      exact Sparse.of_empty _ _
    · rcases Nat.eq_zero_or_pos l.windowMs with hw | hw
      · rw [hw]
        exact Sparse.of_empty _ _
      · rw [hone]
        exact sparse_of_single hone hw he hreaches
    · exact hlate 0 (Option.mem_def.2 hnow) hlimit g hreaches

/-- Two requests in ten milliseconds: the caller that has read 100 asks before the one that has read
99.  At 109 the latter no longer counts, and the former is forgotten with the next admission: three
requests are admitted between 100 and 110. -/
theorem late_reading_overdraws :
    ∃ g, Reaches (some 1) (opening 99 (.new "alpha"
        ⟨"https://a.test", [], none, some ⟨2, 10⟩, .zero, 0.5, [], none⟩ none)) g ∧
      g.admitted = [100, 99, 109, 109] ∧ g.admitted.countP (during 100 10) = 3 := by
  let e := ProviderEntry.new "alpha"
    ⟨"https://a.test", [], none, some ⟨2, 10⟩, .zero, 0.5, [], none⟩ none
  have hfirst : Reaches (some 1) (opening 99 e)
      ⟨100, [], e.asked [100, 99], e.admitted [100, 99]⟩ :=
    reaches_early (fun d hd => Option.mem_some_iff.1 hd ▸ Nat.one_pos) e ⟨2, 10⟩ 99
  have hpass : Reaches (some 1) ⟨100, [], e.asked [100, 99], e.admitted [100, 99]⟩
      ⟨109, [], e.asked [100, 99], e.admitted [100, 99]⟩ := reaches_passing _ (by decide)
  have hsecond : Reaches (some 1) ⟨109, [], e.asked [100, 99], e.admitted [100, 99]⟩
      ⟨109, [], (e.asked [100, 99]).asked [109, 109],
        e.admitted [100, 99] ++ (e.asked [100, 99]).admitted [109, 109]⟩ :=
    reaches_at_once 109 2 _ _
  exact ⟨_, (hfirst.trans hpass).trans hsecond, by rfl, by rfl⟩

end Gate

end Planwright
