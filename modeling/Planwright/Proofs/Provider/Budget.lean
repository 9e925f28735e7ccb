import Planwright.Provider.Entry
import Mathlib.Data.List.DropRight
import Mathlib.Data.List.Induction

set_option autoImplicit false

/-!
# Budgets

A provider may be asked for at most `n` requests in any `w` milliseconds.  Its window remembers the
`n` latest admissions and nothing older, so the question is whether something that it has forgotten
could still matter.

What the window remembers is always the end of the whole history (`stamps_recordAll_new`).  If the
instants come in their order then those that count at some instant are themselves the end of the
history, so the window counts all of them, up to its capacity (`inWindow_recordAll_new`).  A
provider then answers as one that forgets nothing (`answers_eq_unforgetting`).

That no stretch of time has too many admissions (`Sparse`) is proved for instants that may also come
out of their order, but by no more than some delay: stretches that are shorter by this delay keep
the budget (`Sparse.concat`).
-/

namespace Planwright

/-! ## The end of a history -/

theorem length_rtake (instants : List Nat) (n : Nat) :
    (instants.rtake n).length = min n instants.length := by
  rw [List.rtake, List.length_drop]
  omega

theorem rtake_of_length_le {instants : List Nat} {n : Nat} (h : instants.length ≤ n) :
    instants.rtake n = instants := by
  rw [List.rtake, Nat.sub_eq_zero_of_le h, List.drop_zero]

theorem rtake_cons_of_le {t : Nat} {rest : List Nat} {n : Nat} (h : n ≤ rest.length) :
    (t :: rest).rtake n = rest.rtake n := by
  rw [List.rtake, List.rtake, List.length_cons, Nat.succ_sub h, List.drop_succ_cons]

/-- A full end of a history gives up its first instant to make room for one more. -/
theorem rtake_of_full (instants : List Nat) (k : Nat) :
    (if (instants.rtake (k + 1)).length = k + 1 then (instants.rtake (k + 1)).drop 1
      else instants.rtake (k + 1)) = instants.rtake k := by
  by_cases hlong : k + 1 ≤ instants.length
  · have hfull : (instants.rtake (k + 1)).length = k + 1 := by
      rw [length_rtake, Nat.min_eq_left hlong]
    rw [if_pos hfull, List.rtake, List.rtake, List.drop_drop]
    congr 1
    omega
  · have hshort : instants.length ≤ k := by omega
    have hroom : (instants.rtake (k + 1)).length ≠ k + 1 := by
      rw [rtake_of_length_le (Nat.le_succ_of_le hshort)]
      omega
    rw [if_neg hroom, rtake_of_length_le (Nat.le_succ_of_le hshort), rtake_of_length_le hshort]

/-! ## What a window remembers -/

namespace RequestWindow

variable {n w now : Nat} {instants : List Nat}

/-- The window after requests are recorded one after the other. -/
def recordAll (window : RequestWindow) (instants : List Nat) : RequestWindow :=
  instants.foldl record window

theorem recordAll_concat (window : RequestWindow) (instants : List Nat) (now : Nat) :
    window.recordAll (instants ++ [now]) = (window.recordAll instants).record now :=
  List.foldl_append

theorem capacity_recordAll (window : RequestWindow) (instants : List Nat) :
    (window.recordAll instants).capacity = window.capacity := by
  induction instants using List.reverseRecOn with
  | nil => rfl
  | append_singleton instants now ih => rw [recordAll_concat, capacity_record, ih]

theorem lengthMs_recordAll (window : RequestWindow) (instants : List Nat) :
    (window.recordAll instants).lengthMs = window.lengthMs := by
  induction instants using List.reverseRecOn with
  | nil => rfl
  | append_singleton instants now ih => rw [recordAll_concat, lengthMs_record, ih]

/-- A window remembers the latest instants, as many as it has places. -/
theorem stamps_recordAll_new (n w : Nat) (instants : List Nat) :
    ((new n w).recordAll instants).stamps = instants.rtake (max n 1) := by
  obtain ⟨k, hk⟩ : ∃ k, max n 1 = k + 1 := ⟨max n 1 - 1, by omega⟩
  induction instants using List.reverseRecOn with
  | nil => simp [recordAll, new, List.rtake]
  | append_singleton instants now ih =>
      have hcapacity : ((new n w).recordAll instants).capacity = k + 1 := by
        rw [capacity_recordAll]
        exact hk
      rw [recordAll_concat, record, ih, hcapacity, hk, List.rtake_concat_succ, rtake_of_full]

theorem size_recordAll_new_le (n w : Nat) (instants : List Nat) :
    ((new n w).recordAll instants).size ≤ max n 1 := by
  rw [size, stamps_recordAll_new, length_rtake]
  exact Nat.min_le_left _ _

theorem inWindow_recordAll_new_eq (n w : Nat) (instants : List Nat) (now : Nat) :
    ((new n w).recordAll instants).inWindow now
      = countWithin w now (instants.rtake (max n 1)) := by
  rw [inWindow, lengthMs_recordAll, stamps_recordAll_new]
  rfl

/-! ## Counting -/

theorem countWithin_cons (w now t : Nat) (instants : List Nat) :
    countWithin w now (t :: instants)
      = (if now - t < w then 1 else 0) + countWithin w now instants := by
  unfold countWithin
  split <;> simp [*, Nat.add_comm]

theorem countWithin_le_length (w now : Nat) (instants : List Nat) :
    countWithin w now instants ≤ instants.length := List.length_filter_le _ _

theorem countWithin_eq_length (h : ∀ t ∈ instants, now - t < w) :
    countWithin w now instants = instants.length := by
  rw [countWithin, List.filter_eq_self.2 fun t ht => by simpa using h t ht]

/-- If instants come in their order, those that count at some instant are the latest of them: so
many of the latest as there are places show all that count, or fill the places. -/
theorem countWithin_rtake (hordered : instants.Pairwise (· ≤ ·)) (n w now : Nat) :
    countWithin w now (instants.rtake n) = min n (countWithin w now instants) := by
  induction instants with
  | nil => simp [List.rtake, countWithin]
  | cons t rest ih =>
      obtain ⟨hfirst, hrest⟩ := List.pairwise_cons.1 hordered
      by_cases hlong : n ≤ rest.length
      · rw [rtake_cons_of_le hlong, ih hrest, countWithin_cons]
        split
        · next hcounts =>
          -- the first counts, so all the later ones do and fill the places
          have hall : countWithin w now rest = rest.length :=
            countWithin_eq_length fun u hu => by
              have hlater : t ≤ u := hfirst u hu
              omega
          omega
        · omega
      · have hshort : (t :: rest).length ≤ n := by
          rw [List.length_cons]
          omega
        have hle := countWithin_le_length w now (t :: rest)
        rw [rtake_of_length_le hshort]
        omega

/-- A window in which instants were recorded in their order counts what the whole history counts, up
to its capacity. -/
theorem inWindow_recordAll_new (hordered : instants.Pairwise (· ≤ ·)) (n w now : Nat) :
    ((new n w).recordAll instants).inWindow now
      = min (max n 1) (countWithin w now instants) := by
  rw [inWindow_recordAll_new_eq, countWithin_rtake hordered]

/-- An instant that does not count lies a whole window back. -/
theorem exists_rested (h : countWithin w now instants < instants.length) (hw : 0 < w) :
    ∃ t ∈ instants, t + w ≤ now := by
  by_contra hnone
  have hall : countWithin w now instants = instants.length :=
    countWithin_eq_length fun t ht => by
      have hrecent : ¬ t + w ≤ now := fun hle => hnone ⟨t, ht, hle⟩
      omega
  omega

end RequestWindow

/-! ## Stretches of time -/

/-- Whether an instant lies in a stretch of so many milliseconds; its end is not part of it. -/
def during (start length t : Nat) : Bool := start ≤ t && t < start + length

theorem during_iff {start length t : Nat} :
    during start length t = true ↔ start ≤ t ∧ t < start + length := by
  simp [during]

/-- No stretch of `w` milliseconds has more than `n` of the instants. -/
def Sparse (n w : Nat) (instants : List Nat) : Prop :=
  ∀ start, instants.countP (during start w) ≤ n

namespace Sparse

variable {n w delay now : Nat} {past : List Nat}

theorem nil (n w : Nat) : Sparse n w [] := fun _ => Nat.zero_le n

/-- A stretch of no milliseconds has no instants. -/
theorem of_empty (n : Nat) (instants : List Nat) : Sparse n 0 instants := by
  intro start
  have hnone : instants.countP (during start 0) = 0 := by
    refine List.countP_eq_zero.2 fun t _ hduring => ?_
    rw [during_iff] at hduring
    omega
  rw [hnone]
  exact Nat.zero_le n

/-- A request is admitted if fewer than `n` of the `n` latest admissions count.  If admissions come
out of the order of their instants by no more than a delay, then stretches that are shorter than the
window by this delay still have no more than `n` of them. -/
theorem concat (hsparse : Sparse n (w - delay) past)
    (horder : past.Pairwise fun a b => a ≤ b + delay)
    (hroom : RequestWindow.countWithin w now (past.rtake n) < n) :
    Sparse n (w - delay) (past ++ [now]) := by
  intro start
  have hpast := hsparse start
  rw [List.countP_append, List.countP_singleton]
  split
  · next hnow =>
    rw [during_iff] at hnow
    by_contra hcrowded
    have hcount : n ≤ past.countP (during start (w - delay)) := by omega
    have hlong : n ≤ past.length := hcount.trans List.countP_le_length
    have hlatest : (past.rtake n).length = n := by
      rw [length_rtake, Nat.min_eq_left hlong]
    -- one of the latest lies a whole window back, so one of the stretch has been forgotten
    obtain ⟨t, ht, hrested⟩ : ∃ t ∈ past.rtake n, t + w ≤ now :=
      RequestWindow.exists_rested (by rw [hlatest]; exact hroom) (by omega)
    have hle : (past.rtake n).countP (during start (w - delay)) ≤ (past.rtake n).length :=
      List.countP_le_length
    have hfew : (past.rtake n).countP (during start (w - delay)) < n := by
      refine lt_of_le_of_ne (hle.trans_eq hlatest) fun hall => ?_
      have hinside := List.countP_eq_length.1 (hall.trans hlatest.symm) t ht
      rw [during_iff] at hinside
      omega
    have hsplit : past = past.take (past.length - n) ++ past.rtake n :=
      (List.take_append_drop _ _).symm
    rw [hsplit, List.countP_append] at hcount
    have hforgotten : 0 < (past.take (past.length - n)).countP (during start (w - delay)) := by
      omega
    obtain ⟨u, hu, hduring⟩ := List.countP_pos_iff.1 hforgotten
    rw [during_iff] at hduring
    -- it was admitted before the one that lies far back, so it is not much later
    rw [hsplit] at horder
    have hbefore : u ≤ t + delay := (List.pairwise_append.1 horder).2.2 u hu t ht
    omega
  · omega

end Sparse

/-! ## Answers -/

namespace ProviderEntry

variable {e : ProviderEntry} {l : RateLimit} {past instants : List Nat}

/-- The window of an entry has recorded certain admissions and no others. -/
def Remembers (e : ProviderEntry) (l : RateLimit) (past : List Nat) : Prop :=
  e.window = some ((RequestWindow.new l.requests l.windowMs).recordAll past)

theorem remembers_new {m : Manifest} (h : m.rateLimit = some l) (id : String)
    (owner : Option String) : (ProviderEntry.new id m owner).Remembers l [] := by
  rw [Remembers, new, h]
  rfl

/-- A request is admitted if too few of the latest admissions count. -/
theorem tryAdmit_answer (h : e.Remembers l past) (now : Nat) :
    (e.tryAdmit now).1
      = decide (RequestWindow.countWithin l.windowMs now (past.rtake (max l.requests 1))
          < max l.requests 1) := by
  have hroom : e.hasRoom now
      = decide (RequestWindow.countWithin l.windowMs now (past.rtake (max l.requests 1))
          < max l.requests 1) := by
    rw [hasRoom, h, Option.all_some, RequestWindow.hasCapacity,
      RequestWindow.inWindow_recordAll_new_eq, RequestWindow.capacity_recordAll]
    rfl
  rw [← hroom, tryAdmit]
  split
  · next hadmitted => exact hadmitted.symm
  · next hrefused => exact (Bool.eq_false_iff.2 hrefused).symm

/-- An admission is recorded, and a refusal is not. -/
theorem tryAdmit_remembers (h : e.Remembers l past) (now : Nat) :
    (e.tryAdmit now).2.Remembers l (if (e.tryAdmit now).1 then past ++ [now] else past) := by
  rw [tryAdmit]
  split
  · have hreserved : (e.reserve now).window
        = some (((RequestWindow.new l.requests l.windowMs).recordAll past).record now) := by
      rw [reserve, h, Option.map_some]
    rw [if_pos rfl, Remembers, hreserved, RequestWindow.recordAll_concat]
  · rw [if_neg Bool.false_ne_true]
    exact h

/-- What an entry answers if it is asked for places at some instants, one after the other. -/
def answers (e : ProviderEntry) : List Nat → List Bool
  | [] => []
  | now :: rest => (e.tryAdmit now).1 :: answers (e.tryAdmit now).2 rest

/-- The instants at which it has given a place. -/
def admitted (e : ProviderEntry) : List Nat → List Nat
  | [] => []
  | now :: rest =>
    (if (e.tryAdmit now).1 then [now] else []) ++ admitted (e.tryAdmit now).2 rest

/-- The entry after it was asked. -/
def asked (e : ProviderEntry) (instants : List Nat) : ProviderEntry :=
  instants.foldl (fun e now => (e.tryAdmit now).2) e

/-- What a limiter answers that forgets nothing: yes, if fewer admissions than the limit lie in the
last window. -/
def unforgetting (l : RateLimit) : List Nat → List Nat → List Bool
  | _, [] => []
  | past, now :: rest =>
    let fits := decide (RequestWindow.countWithin l.windowMs now past < l.requests)
    fits :: unforgetting l (if fits then past ++ [now] else past) rest

theorem admitted_sublist (e : ProviderEntry) (instants : List Nat) :
    (e.admitted instants).Sublist instants := by
  induction instants generalizing e with
  | nil => exact List.Sublist.refl []
  | cons now rest ih =>
      rw [admitted]
      split
      · exact (ih _).cons_cons now
      · exact (ih _).cons now

theorem asked_cons (e : ProviderEntry) (now : Nat) (rest : List Nat) :
    e.asked (now :: rest) = (e.tryAdmit now).2.asked rest := rfl

theorem asked_remembers (h : e.Remembers l past) (instants : List Nat) :
    (e.asked instants).Remembers l (past ++ e.admitted instants) := by
  induction instants generalizing e past with
  | nil => simpa [asked, admitted] using h
  | cons now rest ih =>
      have hrest := ih (tryAdmit_remembers h now)
      rw [asked_cons, admitted, ← List.append_assoc]
      cases hanswer : (e.tryAdmit now).1 with
      | true => simpa [hanswer] using hrest
      | false => simpa [hanswer] using hrest

/-- If admissions come in the order of their instants, the latest of them decide as all would. -/
theorem tryAdmit_answer_of_ordered (h : e.Remembers l past) (hlimit : 0 < l.requests)
    (hordered : past.Pairwise (· ≤ ·)) (now : Nat) :
    (e.tryAdmit now).1
      = decide (RequestWindow.countWithin l.windowMs now past < l.requests) := by
  rw [tryAdmit_answer h, RequestWindow.countWithin_rtake hordered, Nat.max_eq_left hlimit]
  refine decide_eq_decide.2 ?_
  omega

theorem ordered_of_admitted {now : Nat} {rest : List Nat} (admits : Bool)
    (hordered : (past ++ now :: rest).Pairwise (· ≤ ·)) :
    ((if admits then past ++ [now] else past) ++ rest).Pairwise (· ≤ ·) := by
  split
  · rwa [List.append_assoc]
  · exact hordered.sublist ((List.sublist_cons_self now rest).append_left past)

/-- An entry that is asked at instants in their order answers as if it forgot nothing. -/
theorem answers_eq_unforgetting (h : e.Remembers l past) (hlimit : 0 < l.requests)
    (hordered : (past ++ instants).Pairwise (· ≤ ·)) :
    e.answers instants = unforgetting l past instants := by
  induction instants generalizing e past with
  | nil => rfl
  | cons now rest ih =>
      have hpast := (List.pairwise_append.1 hordered).1
      have hanswer := tryAdmit_answer_of_ordered h hlimit hpast now
      have hrest := ih (tryAdmit_remembers h now) (ordered_of_admitted _ hordered)
      rw [hanswer] at hrest
      rw [answers, unforgetting, hanswer, hrest]

/-- No stretch as long as the window has more admissions than the limit. -/
theorem sparse_admitted (h : e.Remembers l past) (hlimit : 0 < l.requests)
    (hordered : (past ++ instants).Pairwise (· ≤ ·)) (hsparse : Sparse l.requests l.windowMs past) :
    Sparse l.requests l.windowMs (past ++ e.admitted instants) := by
  induction instants generalizing e past with
  | nil => simpa [admitted] using hsparse
  | cons now rest ih =>
      have hpast := (List.pairwise_append.1 hordered).1
      have hanswer := tryAdmit_answer h now
      have hrest := ih (tryAdmit_remembers h now) (ordered_of_admitted _ hordered)
      rw [admitted, ← List.append_assoc]
      cases hadmits : (e.tryAdmit now).1 with
      | false => simpa [hadmits] using hrest (by simpa [hadmits] using hsparse)
      | true =>
          rw [hadmits, Nat.max_eq_left hlimit] at hanswer
          have hnext : Sparse l.requests (l.windowMs - 0) (past ++ [now]) :=
            Sparse.concat hsparse hpast (of_decide_eq_true hanswer.symm)
          simpa [hadmits] using hrest (by simpa [hadmits] using hnext)

/-- **Budgets.**  A window into which instants are recorded in their order has never more of them
than its capacity, and counts at any instant what the whole history counts there, up to its
capacity.  So a provider that is asked for places at instants in their order answers each time as
one that forgets nothing: no stretch as long as the window has more admissions than the limit, and a
refusal means that so many admissions lie in the last window. -/
theorem bounded_ring_faithful {l : RateLimit} (hlimit : 0 < l.requests) {instants : List Nat}
    (hordered : instants.Pairwise (· ≤ ·)) :
    (∀ now,
      ((RequestWindow.new l.requests l.windowMs).recordAll instants).size ≤ l.requests ∧
      ((RequestWindow.new l.requests l.windowMs).recordAll instants).inWindow now
        = min l.requests (RequestWindow.countWithin l.windowMs now instants)) ∧
    ∀ (id : String) (m : Manifest) (owner : Option String), m.rateLimit = some l →
      (ProviderEntry.new id m owner).answers instants = unforgetting l [] instants ∧
      Sparse l.requests l.windowMs ((ProviderEntry.new id m owner).admitted instants) ∧
      ∀ before now after, instants = before ++ now :: after →
        ((((ProviderEntry.new id m owner).asked before).tryAdmit now).1 = false ↔
          l.requests ≤ RequestWindow.countWithin l.windowMs now
            ((ProviderEntry.new id m owner).admitted before)) := by
  have hcapacity : max l.requests 1 = l.requests := Nat.max_eq_left hlimit
  refine ⟨fun now => ⟨?size, ?counted⟩, fun id m owner hm => ⟨?answers, ?sparse, ?refused⟩⟩
  case size =>
    have hsize := RequestWindow.size_recordAll_new_le l.requests l.windowMs instants
    rwa [hcapacity] at hsize
  case counted => rw [RequestWindow.inWindow_recordAll_new hordered, hcapacity]
  case answers => exact answers_eq_unforgetting (remembers_new hm id owner) hlimit hordered
  case sparse =>
    exact sparse_admitted (remembers_new hm id owner) hlimit hordered (Sparse.nil _ _)
  case refused =>
    rintro before now after rfl
    have hremembers := asked_remembers (remembers_new hm id owner) before
    rw [List.nil_append] at hremembers
    have hbefore := (List.pairwise_append.1 hordered).1.sublist (admitted_sublist
      (ProviderEntry.new id m owner) before)
    rw [tryAdmit_answer_of_ordered hremembers hlimit hbefore, decide_eq_false_iff_not, not_lt]

/-- Two requests in ten milliseconds: the first no longer counts when the third comes, and the
second no longer when the fifth comes. -/
theorem bounded_ring_faithful_twoInTen :
    0 < (RateLimit.mk 2 10).requests ∧ [0, 3, 10, 12, 13].Pairwise (· ≤ ·) ∧
      (((RequestWindow.new 2 10).recordAll [0, 3, 10, 12, 13]).size ≤ 2 ∧
        ((RequestWindow.new 2 10).recordAll [0, 3, 10, 12, 13]).inWindow 13 = 2) ∧
      (ProviderEntry.new "alpha" ⟨"https://a.test", [], none, some ⟨2, 10⟩, .zero, 0.5, [], none⟩
        none).answers [0, 3, 10, 12, 13] = [true, true, true, false, true] := by
  have h := @bounded_ring_faithful ⟨2, 10⟩ (by decide) [0, 3, 10, 12, 13] (by decide)
  have hanswers := (h.2 "alpha" ⟨"https://a.test", [], none, some ⟨2, 10⟩, .zero, 0.5, [], none⟩
    none rfl).1
  exact ⟨by decide, by decide, h.1 13, hanswers⟩

end ProviderEntry

end Planwright
