import Planwright.Planning.Synthesis

set_option autoImplicit false

/-!
# Plans and the pairs they are inserted for

A table of plans is meant as a map from pairs of a domain and an action.  It joins the two by a
slash, and a name that holds a slash itself can be taken apart in more ways than one: an action
`b/c` of the domain `a` has the name of an action `c` of the domain `a/b`, and no other pairs are
mixed up (`key_eq_iff`).

So the table is a map for the pairs of some set exactly if no two pairs of the set differ in this
way (`map_laws_iff`).
-/

namespace Planwright

namespace PlanTable

/-- An insertion: a plan for an action of a domain. -/
structure Insertion where
  domain : String
  action : String
  plan : Plan

/-- The table after insertions in their order. -/
def ofInsertions (done : List Insertion) : PlanTable :=
  done.foldl (fun t i => t.insert i.domain i.action i.plan) .empty

/-- The plan of the last insertion of some kind. -/
def lastWhere (kind : Insertion → Prop) [DecidablePred kind] : List Insertion → Option Plan
  | [] => none
  | i :: later => (lastWhere kind later).or (if kind i then some i.plan else none)

/-- The plan of the last insertion for this very action of this very domain. -/
def lastFor (done : List Insertion) (domain action : String) : Option Plan :=
  lastWhere (fun i => i.domain = domain ∧ i.action = action) done

/-! ## What is found -/

theorem get?_insert (t : PlanTable) (d a domain action : String) (p : Plan) :
    (t.insert d a p).get? domain action
      = if key d a = key domain action then some p else t.get? domain action := by
  unfold get? insert
  split
  · next h => rw [h, Dict.get?_place_self]
  · next h => exact Dict.get?_place_of_ne (Ne.symm h) p t.plans

theorem get?_foldl_insert (t : PlanTable) (done : List Insertion) (domain action : String) :
    (done.foldl (fun t i => t.insert i.domain i.action i.plan) t).get? domain action
      = (lastWhere (fun i => key i.domain i.action = key domain action) done).or
          (t.get? domain action) := by
  induction done generalizing t with
  | nil => rfl
  | cons i later ih =>
      rw [List.foldl_cons, ih, get?_insert, lastWhere, Option.or_assoc]
      congr 1
      split <;> rfl

/-- What is found is the plan of the last insertion under the joined name. -/
theorem get?_ofInsertions (done : List Insertion) (domain action : String) :
    (ofInsertions done).get? domain action
      = lastWhere (fun i => key i.domain i.action = key domain action) done := by
  unfold ofInsertions
  rw [get?_foldl_insert]
  exact Option.or_none

theorem lastWhere_congr {kind other : Insertion → Prop} [DecidablePred kind] [DecidablePred other]
    {done : List Insertion} (h : ∀ i ∈ done, kind i ↔ other i) :
    lastWhere kind done = lastWhere other done := by
  induction done with
  | nil => rfl
  | cons i later ih =>
      obtain ⟨hi, hlater⟩ := List.forall_mem_cons.1 h
      rw [lastWhere, lastWhere, ih hlater]
      simp only [hi]

/-! ## Joined names -/

theorem toList_key (d a : String) : (key d a).toList = d.toList ++ '/' :: a.toList := by
  have hslash : "/".toList = ['/'] := rfl
  simp only [key, String.toList_append, hslash, List.append_assoc, List.singleton_append]

theorem key_append_left (d x a : String) : key (d ++ "/" ++ x) a = key d (x ++ "/" ++ a) := by
  simp only [key, String.append_assoc]

/-- A part of a name that begins with a slash, between a shorter domain and a shorter action. -/
theorem exists_between {d d' a a' : String} {middle : List Char}
    (hdomain : d'.toList = d.toList ++ middle)
    (haction : '/' :: a.toList = middle ++ '/' :: a'.toList) :
    (d = d' ∧ a = a') ∨ ∃ x, d' = d ++ "/" ++ x ∧ a = x ++ "/" ++ a' := by
  have hslash : "/".toList = ['/'] := rfl
  cases middle with
  | nil =>
      rw [List.append_nil] at hdomain
      rw [List.nil_append] at haction
      exact .inl ⟨String.toList_injective hdomain.symm,
        String.toList_injective (List.cons.inj haction).2⟩
  | cons c x =>
      obtain ⟨rfl, hrest⟩ : '/' = c ∧ a.toList = x ++ '/' :: a'.toList := List.cons.inj haction
      refine .inr ⟨String.ofList x, String.toList_injective ?_, String.toList_injective ?_⟩
      · rw [hdomain]
        simp [String.toList_append, hslash]
      · rw [hrest]
        simp [String.toList_append, hslash]

/-- Where the names of two pairs are the same, the pairs are, or one domain goes on into what is
part of the other action. -/
theorem key_eq_iff {d a d' a' : String} :
    key d a = key d' a' ↔ (d = d' ∧ a = a') ∨
      (∃ x, d' = d ++ "/" ++ x ∧ a = x ++ "/" ++ a') ∨
      ∃ x, d = d' ++ "/" ++ x ∧ a' = x ++ "/" ++ a := by
  constructor
  · intro h
    have hnames := congrArg String.toList h
    rw [toList_key, toList_key] at hnames
    rcases List.append_eq_append_iff.1 hnames with ⟨x, hdomain, haction⟩ | ⟨x, hdomain, haction⟩
    · exact (exists_between hdomain haction).imp_right .inl
    · rcases exists_between hdomain haction with ⟨hd, ha⟩ | hlonger
      · exact .inl ⟨hd.symm, ha.symm⟩
      · exact .inr (.inr hlonger)
  · rintro (⟨rfl, rfl⟩ | ⟨x, rfl, rfl⟩ | ⟨x, rfl, rfl⟩)
    · rfl
    · exact (key_append_left d x a').symm
    · exact key_append_left d' x a

/-- No pair is used together with one from whose action a part was moved to the domain. -/
def Separate (Used : String → String → Prop) : Prop :=
  ∀ d x a, Used (d ++ "/" ++ x) a → ¬ Used d (x ++ "/" ++ a)

variable {Used : String → String → Prop}

theorem Separate.eq_of_key_eq (h : Separate Used) {d a d' a' : String} (hused : Used d a)
    (hused' : Used d' a') (hkey : key d a = key d' a') : d = d' ∧ a = a' := by
  rcases key_eq_iff.1 hkey with hsame | ⟨x, rfl, rfl⟩ | ⟨x, rfl, rfl⟩
  · exact hsame
  · exact absurd hused (h _ _ _ hused')
  · exact absurd hused' (h _ _ _ hused)

/-! ## The laws of a map -/

/-- Insertions for used pairs only. -/
def Within (Used : String → String → Prop) (done : List Insertion) : Prop :=
  ∀ i ∈ done, Used i.domain i.action

/-- For every pair that is used, the plan of its own last insertion is found, and none if there was
no insertion. -/
def FindsLast (Used : String → String → Prop) : Prop :=
  ∀ done, Within Used done → ∀ d a, Used d a → (ofInsertions done).get? d a = lastFor done d a

/-- An insertion for a used pair changes nothing for another one. -/
def KeepsOthers (Used : String → String → Prop) : Prop :=
  ∀ (t : PlanTable) (domain action : String) (p : Plan), Used domain action →
    ∀ d a, Used d a → ¬ (domain = d ∧ action = a) →
    (t.insert domain action p).get? d a = t.get? d a

/-- An intent whose pair is used, where its recipe comes from the table, gets the one of the last
plan inserted for its own pair. -/
def PlansOwn (Used : String → String → Prop) : Prop :=
  ∀ done, Within Used done → ∀ (k : Catalog) (matched : Option CapabilityMatch) (i : Intent),
    Used i.domain i.action → ∀ d a,
    (Synthesis.synthesize k (ofInsertions done) matched i).source = .table d a →
    i.domain = d ∧ i.action = a ∧ ∃ p, lastFor done d a = some p ∧
      (Synthesis.synthesize k (ofInsertions done) matched i).recipe
        = p.template.instantiate (Synthesis.filledIn p i)

theorem Separate.findsLast (h : Separate Used) : FindsLast Used := by
  intro done hdone d a hused
  rw [get?_ofInsertions]
  refine lastWhere_congr fun i hi => ?_
  constructor
  · exact h.eq_of_key_eq (hdone i hi) hused
  · rintro ⟨rfl, rfl⟩
    rfl

theorem Separate.keepsOthers (h : Separate Used) : KeepsOthers Used := by
  intro t domain action p hinserted d a hused hother
  rw [get?_insert, if_neg (fun hkey => hother (h.eq_of_key_eq hinserted hused hkey))]

theorem FindsLast.plansOwn (h : FindsLast Used) : PlansOwn Used := by
  intro done hdone k matched i hused d a hsource
  have hfound := h done hdone i.domain i.action hused
  unfold Synthesis.synthesize at hsource ⊢
  cases hcapability : Synthesis.ofCapability? k matched i with
  | some plan =>
      obtain ⟨name, template, hplan⟩ := Synthesis.source_of_ofCapability? hcapability
      rw [hcapability] at hsource
      cases hplan.symm.trans hsource
  | none =>
      rw [hcapability] at hsource
      unfold Synthesis.ofTable? at hsource ⊢
      cases hlast : lastFor done i.domain i.action with
      | none =>
          rw [hfound, hlast] at hsource
          cases hsource
      | some p =>
          rw [hfound, hlast] at hsource ⊢
          cases hsource
          exact ⟨rfl, rfl, p, hlast, rfl⟩

/-! ## Pairs that are mixed up -/

theorem append_slash_ne (d x : String) : d ++ "/" ++ x ≠ d := by
  intro h
  have hlength := congrArg String.length h
  have hslash : "/".length = 1 := rfl
  simp only [String.length_append, hslash] at hlength
  omega

/-- Where a table holds nothing but the plan of one pair, another pair may find it. -/
theorem get?_insert_shifted (d x a : String) (p : Plan) :
    (empty.insert (d ++ "/" ++ x) a p).get? d (x ++ "/" ++ a) = some p := by
  rw [get?_insert, if_pos (key_append_left d x a)]

theorem lastFor_shifted (d x a : String) (p : Plan) :
    lastFor [⟨d ++ "/" ++ x, a, p⟩] d (x ++ "/" ++ a) = none :=
  if_neg fun h => append_slash_ne d x h.1

theorem FindsLast.separate (h : FindsLast Used) : Separate Used := by
  intro d x a hlonger hused
  have hfound := h [⟨d ++ "/" ++ x, a, default⟩] (List.forall_mem_singleton.2 hlonger) d
    (x ++ "/" ++ a) hused
  rw [lastFor_shifted] at hfound
  cases (get?_insert_shifted d x a default).symm.trans hfound

theorem KeepsOthers.separate (h : KeepsOthers Used) : Separate Used := by
  intro d x a hlonger hused
  have hkept := h empty (d ++ "/" ++ x) a default hlonger d (x ++ "/" ++ a) hused
    fun hsame => append_slash_ne d x hsame.1
  cases (get?_insert_shifted d x a default).symm.trans hkept

theorem PlansOwn.separate (h : PlansOwn Used) : Separate Used := by
  intro d x a hlonger hused
  let done : List Insertion := [⟨d ++ "/" ++ x, a, default⟩]
  let i : Intent := ⟨d, x ++ "/" ++ a, .none, 1⟩
  have hsource : (Synthesis.synthesize (.empty .standard) (ofInsertions done) none i).source
      = .table d (x ++ "/" ++ a) := by
    have htable : Synthesis.ofTable? (ofInsertions done) i = some
        ⟨(default : Plan).template.instantiate (Synthesis.filledIn default i),
          .table d (x ++ "/" ++ a)⟩ :=
      congrArg (Option.map _) (get?_insert_shifted d x a default)
    rw [Synthesis.synthesize, htable]
    rfl
  obtain ⟨-, -, p, hlast, -⟩ :=
    h done (List.forall_mem_singleton.2 hlonger) _ none i hused _ _ hsource
  cases (lastFor_shifted d x a default).symm.trans hlast

/-- **A table of plans as a map.**  For any set of pairs of a domain and an action, each of these is
the case exactly if the set has no pair together with one from whose action a part was moved to the
domain: that a pair always finds the plan of its own last insertion, or nothing if there was none;
that an insertion never changes what another pair finds; and that an intent is only ever planned, as
far as the table plans it, with the last plan that was inserted for its own pair. -/
theorem map_laws_iff (Used : String → String → Prop) :
    (FindsLast Used ↔ Separate Used) ∧ (KeepsOthers Used ↔ Separate Used) ∧
      (PlansOwn Used ↔ Separate Used) :=
  ⟨⟨FindsLast.separate, Separate.findsLast⟩, ⟨KeepsOthers.separate, Separate.keepsOthers⟩,
    ⟨PlansOwn.separate, fun h => h.findsLast.plansOwn⟩⟩

/-- An action of one domain is planned with what was inserted for another action of another
domain. -/
theorem plan_found_for_other_pair :
    let done : List Insertion := [⟨"a/b", "c", priceLookup⟩]
    let i : Intent := ⟨"a", "b/c", .none, 1⟩
    (ofInsertions done).get? i.domain i.action = some priceLookup ∧
      lastFor done i.domain i.action = none ∧
      (Synthesis.synthesize (.empty .standard) (ofInsertions done) none i).source
        = .table "a" "b/c" := by
  intro done i
  have hfound : (ofInsertions done).get? i.domain i.action = some priceLookup :=
    get?_insert_shifted "a" "b" "c" priceLookup
  refine ⟨hfound, lastFor_shifted "a" "b" "c" priceLookup, ?_⟩
  rw [Synthesis.synthesize, Synthesis.ofTable?, hfound]
  rfl

end PlanTable

end Planwright
