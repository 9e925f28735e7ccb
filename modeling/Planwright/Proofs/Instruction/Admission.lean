import Planwright.Instruction.Decode
import Planwright.Proofs.Value.Fields

set_option autoImplicit false

/-!
# Which steps are admitted

A recipe is read as a whole, branches included, and a tag is *known* if it is built in or is the
qualified name of an action that is there.  Two things are proved about the reader: every tag of
what it admits is known, at whatever depth it stands (`known_of_decode_eq_ok`), and what it refuses
it refuses for one of two reasons, never as something cancelled (`onlyFails_decode`).

Steps inside branches are still raw values when the step around them is read, so a tag is looked for
in raw fields.

A call may be given as a list of the values of its fields; which lists are taken, the table of the
fields says (`exists_rawCall_list_iff`).
-/

namespace Planwright

open Fallible

namespace Step

/-- The fields that hold the branches of a conditional, under either spelling. -/
def branchFields : List String := ["ifTrue", "ifFalse", "if_true", "if_false"]

/-- The members of a raw step that are its free fields. -/
def freeFields (members : Dict Value) : Dict Value :=
  Dict.ofEntries (members.filter fun m => !reserved.contains m.1)

/-- A tag is that of a step with the given tag and free fields, or of a step in a branch of it, at
any depth. -/
inductive Carries (tag : String) : String → Dict Value → Prop where
  | own (fields : Dict Value) : Carries tag tag fields
  | nested {fields members : Dict Value} {items : List Value} {name op : String}
      (field : name ∈ branchFields) (branch : fields.get? name = some (.list items))
      (item : .object members ∈ items) (type : members.get? "type" = some (.text op))
      (inner : Carries tag op (freeFields members)) : Carries tag Tag.conditional.name fields

/-- A raw step that is read has the tag that it says and the free fields that it holds. -/
theorem ofValue_eq_ok {members : Dict Value} {s : Step} (h : ofValue (.object members) = .ok s) :
    members.get? "type" = some (.text s.op) ∧ s.fields = freeFields members := by
  unfold ofValue at h
  simp only [bind_eq_ok, require_eq_ok] at h
  obtain ⟨ms, hms, assignTo, -, returns, -, found, htype, op, hop, hs⟩ := h
  obtain rfl : members = ms := Value.object.inj (Shape.members_eq_ok.1 hms)
  subst hop
  obtain ⟨v, hget, htext⟩ := Dict.field?_eq_ok_some htype
  obtain rfl := Shape.text_eq_ok.1 htext
  obtain rfl := Except.ok.inj hs
  exact ⟨hget, rfl⟩

end Step

namespace Node

/-! ## Calls given as lists -/

/-- A call given as a list is read exactly if its values stand for the fields of a call. -/
theorem exists_rawCall_list_iff {values : List Value} :
    (∃ raw, rawCall (.list values) = .ok raw) ↔ ∃ ms, Shape.listed callFields values = .ok ms := by
  constructor
  · rintro ⟨raw, h⟩
    rw [rawCall, bind_eq_ok] at h
    exact h.imp fun ms hms => hms.1
  · rintro ⟨ms, h⟩
    have hdistinct : (callFields.map (·.name)).Nodup := by decide
    have hnullable : ∀ {α : Type} {name : String} {shape : Shape α},
        .optional name (Shape.nullable shape) ∈ callFields →
          ∃ found, ms.nullable? name shape = .ok found :=
      Dict.nullable?_of_optional hdistinct h
    have hoptional : ∀ {α : Type} {name : String} {shape : Shape α},
        .optional name shape ∈ callFields → ∃ found, ms.field? name shape = .ok found :=
      Dict.field?_of_optional hdistinct h
    obtain ⟨endpoint, hendpoint⟩ : ∃ a, ms.field? "endpoint" Shape.text = .ok (some a) :=
      Dict.field?_of_required hdistinct h (by simp [callFields])
    obtain ⟨body, hbody⟩ : ∃ found, ms.nullable? "body" Shape.any = .ok found :=
      hnullable (by simp [callFields])
    obtain ⟨category, hcategory⟩ : ∃ found, ms.nullable? "category" Shape.text = .ok found :=
      hnullable (by simp [callFields])
    obtain ⟨method, hmethod⟩ : ∃ found, ms.nullable? "method" Shape.text = .ok found :=
      hnullable (by simp [callFields])
    obtain ⟨params, hparams⟩ : ∃ found, ms.field? "params" Shape.any = .ok found :=
      hoptional (by simp [callFields])
    obtain ⟨provider, hprovider⟩ : ∃ found, ms.nullable? "provider" Shape.text = .ok found :=
      hnullable (by simp [callFields])
    obtain ⟨requirements, hrequirements⟩ :
        ∃ found, ms.field? "requirements" Requirements.ofValue = .ok found :=
      hoptional (by simp [callFields])
    obtain ⟨transform, htransform⟩ :
        ∃ found, ms.nullable? "transform" rawTransform = .ok found :=
      hnullable (by simp [callFields])
    rw [rawCall]
    simp only [bind_eq_ok]
    exact ⟨_, ms, h, body, hbody, category, hcategory, _, hendpoint, method, hmethod, params,
      hparams, provider, hprovider, requirements, hrequirements, transform, htransform, endpoint,
      rfl, rfl⟩

example : (rawCall (.list [.text "alpha", .null, .object [], .text "p"])).isOk = true := by rfl

/-! ## Known tags -/

/-- A tag is built in, or the qualified name of an action that is there. -/
def Known (hasAction : String → Bool) (tag : String) : Prop :=
  (∃ t : Tag, t.name = tag) ∨ isAction hasAction tag = true

instance (hasAction : String → Bool) (tag : String) : Decidable (Known hasAction tag) :=
  decidable_of_iff ((∃ t ∈ Tag.all, t.name = tag) ∨ isAction hasAction tag = true)
    (by simp [Known, Tag.mem_all])

theorem shaped_eq_ok {α : Type} {op : String} {x : Except ShapeError α} {a : α} :
    shaped op x = .ok a ↔ x = .ok a := by
  cases x <;> simp [shaped]

/-- A field that may be spelled in two ways was read from the spelling that was there. -/
theorem secondSpelling_eq_ok {α : Type} {fields : Dict Value} {name second key : String}
    {shape : Shape α} {first found : Option α} {v : Value}
    (hfirst : fields.field? name shape = .ok first)
    (h : secondSpelling fields name second shape first = .ok found)
    (hkey : key = name ∨ key = second) (hv : fields.get? key = some v) :
    ∃ a, shape v = .ok a ∧ found = some a := by
  rcases hkey with rfl | rfl
  · rw [Dict.field?_of_get?_eq_some hv, map_eq_ok] at hfirst
    obtain ⟨a, ha, rfl⟩ := hfirst
    simp only [secondSpelling] at h
    split at h
    · cases h
    · exact ⟨a, ha, (Except.ok.inj h).symm⟩
  · cases first with
    | some a => simp [secondSpelling, Dict.contains, hv] at h
    | none =>
        rw [secondSpelling, Dict.field?_of_get?_eq_some hv, map_eq_ok] at h
        obtain ⟨a, ha, rfl⟩ := h
        exact ⟨a, ha, rfl⟩

/-- Whatever branch a conditional holds, under either spelling, is one of the two that are read. -/
theorem rawConditional_eq_ok {fields : Dict Value} {condition v : Value} {name : String}
    {ifTrue ifFalse : List Step} (h : rawConditional fields = .ok (condition, ifTrue, ifFalse))
    (hname : name ∈ Step.branchFields) (hv : fields.get? name = some v) :
    ∃ steps, Shape.list Step.ofValue v = .ok steps ∧ (steps = ifTrue ∨ steps = ifFalse) := by
  unfold rawConditional at h
  simp only [bind_eq_ok] at h
  obtain ⟨_, -, firstFalse, hfirstFalse, firstTrue, hfirstTrue, foundFalse, hfoundFalse,
    foundTrue, hfoundTrue, _, -, hresult⟩ := h
  obtain ⟨-, rfl, rfl⟩ :
      _ = condition ∧ foundTrue.getD [] = ifTrue ∧ foundFalse.getD [] = ifFalse := by
    simpa [pure, Except.pure] using hresult
  have hspelling :
      (name = "ifTrue" ∨ name = "if_true") ∨ (name = "ifFalse" ∨ name = "if_false") := by
    simp only [Step.branchFields, List.mem_cons, List.not_mem_nil, or_false] at hname
    rcases hname with h | h | h | h <;> simp [h]
  rcases hspelling with htrue | hfalse
  · obtain ⟨steps, hsteps, rfl⟩ := secondSpelling_eq_ok hfirstTrue hfoundTrue htrue hv
    exact ⟨steps, hsteps, .inl rfl⟩
  · obtain ⟨steps, hsteps, rfl⟩ := secondSpelling_eq_ok hfirstFalse hfoundFalse hfalse hv
    exact ⟨steps, hsteps, .inr rfl⟩

theorem name_of_ofName? {word : String} {t : Tag} (h : Tag.ofName? word = some t) :
    t.name = word := by
  have hfound := List.find?_some h
  simpa using hfound

theorem ofName?_conditional : Tag.ofName? Tag.conditional.name = some .conditional := by decide

/-- A step that is read has a known tag of its own. -/
theorem known_of_decodeStep_eq_ok {hasAction : String → Bool}
    {branch : List Step → Except Failure (List Node)} {s : Step} {n : Node}
    (h : decodeStep hasAction branch s = .ok n) : Known hasAction s.op := by
  unfold decodeStep at h
  split at h
  · rename_i htag
    exact .inl ⟨_, name_of_ofName? htag⟩
  · rename_i htag
    exact .inl ⟨_, name_of_ofName? htag⟩
  · split at h
    · rename_i haction
      exact .inr haction
    · cases h

/-- A conditional is read by reading both its branches. -/
theorem decodeStep_eq_ok_iff_of_conditional {hasAction : String → Bool}
    {branch : List Step → Except Failure (List Node)} {s : Step} {n : Node}
    (hop : s.op = Tag.conditional.name) :
    decodeStep hasAction branch s = .ok n ↔
      ∃ condition ifTrue ifFalse inTrue inFalse,
        rawConditional s.fields = .ok (condition, ifTrue, ifFalse) ∧
        branch ifTrue = .ok inTrue ∧ branch ifFalse = .ok inFalse ∧
        n = .branch ⟨s.op, s.assignTo, s.returns⟩ condition inTrue inFalse := by
  unfold decodeStep
  rw [hop, ofName?_conditional]
  simp only [bind_eq_ok, shaped_eq_ok]
  constructor
  · rintro ⟨⟨condition, ifTrue, ifFalse⟩, hraw, inTrue, htrue, inFalse, hfalse, hn⟩
    exact ⟨condition, ifTrue, ifFalse, inTrue, inFalse, hraw, htrue, hfalse,
      (Except.ok.inj hn).symm⟩
  · rintro ⟨condition, ifTrue, ifFalse, inTrue, inFalse, hraw, htrue, hfalse, rfl⟩
    exact ⟨(condition, ifTrue, ifFalse), hraw, inTrue, htrue, inFalse, hfalse, rfl⟩

/-- Any other step that is read is plain. -/
theorem exists_plain_of_decodeStep_eq_ok {hasAction : String → Bool}
    {branch : List Step → Except Failure (List Node)} {s : Step} {n : Node}
    (hop : s.op ≠ Tag.conditional.name) (h : decodeStep hasAction branch s = .ok n) :
    ∃ act, n = .plain ⟨s.op, s.assignTo, s.returns⟩ act := by
  unfold decodeStep at h
  cases htag : Tag.ofName? s.op with
  | none =>
      rw [htag] at h
      simp only at h
      split at h
      · obtain ⟨params, -, hn⟩ := bind_eq_ok.1 h
        exact ⟨_, (Except.ok.inj hn).symm⟩
      · cases h
  | some tag =>
      rw [htag] at h
      cases tag with
      | act tag =>
          obtain ⟨act, -, hn⟩ := bind_eq_ok.1 h
          exact ⟨act, (Except.ok.inj hn).symm⟩
      | conditional => exact absurd (name_of_ofName? htag).symm hop

/-- It is read alike whatever the reader of branches is. -/
theorem decodeStep_congr_of_ne_conditional (hasAction : String → Bool)
    (branch branch' : List Step → Except Failure (List Node)) {s : Step}
    (hop : s.op ≠ Tag.conditional.name) :
    decodeStep hasAction branch s = decodeStep hasAction branch' s := by
  unfold decodeStep
  cases htag : Tag.ofName? s.op with
  | none => rfl
  | some tag =>
      cases tag with
      | act tag => rfl
      | conditional => exact absurd (name_of_ofName? htag).symm hop

/-- Every tag that admitted steps carry is known. -/
theorem known_of_decodeWithin_eq_ok {hasAction : String → Bool} {limit levels : Nat}
    {steps : List Step} {nodes : List Node}
    (h : decodeWithin hasAction limit levels steps = .ok nodes) {s : Step} (hs : s ∈ steps)
    {tag : String} (hcarries : Step.Carries tag s.op s.fields) : Known hasAction tag := by
  induction levels generalizing steps nodes s with
  | zero => cases h
  | succ levels ih =>
      obtain ⟨n, -, hstep⟩ := ok_of_mapM_eq_ok h hs
      generalize hop : s.op = op at hcarries
      generalize hfields : s.fields = fields at hcarries
      cases hcarries with
      | own => exact hop ▸ known_of_decodeStep_eq_ok hstep
      | @nested _ members items name op hname hbranch hitem htype hinner =>
          -- the branch that holds the item is one of the two that were read one level deeper
          obtain ⟨_, ifTrue, ifFalse, _, _, hraw, htrue, hfalse, -⟩ :=
            (decodeStep_eq_ok_iff_of_conditional hop).1 hstep
          rw [← hfields] at hbranch
          obtain ⟨inside, hlist, hside⟩ := rawConditional_eq_ok hraw hname hbranch
          obtain ⟨_, hitems, hmapM⟩ := Shape.list_eq_ok.1 hlist
          obtain rfl := Value.list.inj hitems
          obtain ⟨inner, hmem, hread⟩ := ok_of_mapM_eq_ok hmapM hitem
          obtain ⟨htype', hfree⟩ := Step.ofValue_eq_ok hread
          obtain rfl : op = inner.op := by
            rw [htype] at htype'
            exact Value.text.inj (Option.some.inj htype')
          rw [← hfree] at hinner
          rcases hside with rfl | rfl
          · exact ih htrue hmem hinner
          · exact ih hfalse hmem hinner

/-- Every tag that the steps of an admitted recipe carry is known. -/
theorem known_of_decode_eq_ok {hasAction : String → Bool} {limit : Nat} {steps : List Step}
    {nodes : List Node} (h : decode hasAction limit steps = .ok nodes) {s : Step} (hs : s ∈ steps)
    {tag : String} (hcarries : Step.Carries tag s.op s.fields) : Known hasAction tag :=
  known_of_decodeWithin_eq_ok h hs hcarries

/-! ## Refusals -/

/-- The failures with which steps are refused. -/
inductive Refusal : Failure → Prop where
  /-- a field that is absent or wrong, or too many levels -/
  | malformed (detail : String) : Refusal (.invalid detail)
  /-- a name outside the closed set -/
  | unknown (detail : String) : Refusal (.unknownOperation detail)

theorem onlyFails_shaped {α : Type} (op : String) (x : Except ShapeError α) :
    OnlyFails Refusal (shaped op x) := by
  cases x with
  | ok a => exact .ok a
  | error e => exact .error (.malformed _)

theorem onlyFails_method (word : String) : OnlyFails Refusal (Method.ofName word) := by
  unfold Method.ofName
  dsimp only
  split
  · exact .ok _
  · exact .error (.malformed _)

theorem onlyFails_transform (word : String) : OnlyFails Refusal (Transform.ofName word) := by
  unfold Transform.ofName
  split
  · exact .ok _
  · exact .error (.unknown _)

theorem onlyFails_calculation (word : String) : OnlyFails Refusal (Calculation.ofName word) := by
  unfold Calculation.ofName
  split
  · exact .ok _
  · exact .error (.unknown _)

theorem onlyFails_targetOf (op : String) (needed : Bool) (raw : RawCall) :
    OnlyFails Refusal (targetOf op needed raw) := by
  unfold targetOf
  split
  · exact .ok _
  · exact .ok _
  · split
    · exact .error (.malformed _)
    · exact .ok _

theorem onlyFails_decodeCall (op : String) (needed : Bool) (v : Value) :
    OnlyFails Refusal (decodeCall op needed v) := by
  unfold decodeCall
  refine (onlyFails_shaped op _).bind fun raw => ?_
  refine (onlyFails_targetOf op needed raw).bind fun target => ?_
  dsimp only
  split
  · split
    · exact .ok _
    · exact (onlyFails_transform _).bind fun _ => .ok _
  · refine (onlyFails_method _).bind fun method => ?_
    split
    · exact .ok _
    · exact (onlyFails_transform _).bind fun _ => .ok _

theorem onlyFails_decodeAct (op : String) (fields : Dict Value) (tag : ActTag) :
    OnlyFails Refusal (decodeAct op fields tag) := by
  cases tag with
  | apiCall => exact (onlyFails_decodeCall op true _).map
  | parallelApiCalls =>
      exact (onlyFails_shaped op _).bind fun calls =>
        (OnlyFails.mapM calls (onlyFails_decodeCall op true)).bind fun _ => .ok _
  | batchApiCalls =>
      exact (onlyFails_shaped op _).bind fun p =>
        (OnlyFails.mapM p.2 (onlyFails_decodeCall op false)).bind fun _ => .ok _
  | calculate =>
      exact (onlyFails_shaped op _).bind fun p => (onlyFails_calculation p.1).bind fun _ => .ok _
  | formatResponse => exact (onlyFails_shaped op _).bind fun _ => .ok _
  | transform =>
      exact (onlyFails_shaped op _).bind fun p => (onlyFails_transform p.2.1).bind fun _ => .ok _
  | error =>
      refine (onlyFails_shaped op _).bind fun p => ?_
      dsimp only
      split
      · exact .ok _
      · split
        · exact .ok _
        · exact .error (.malformed _)

theorem onlyFails_decodeStep {hasAction : String → Bool}
    {branch : List Step → Except Failure (List Node)}
    (hbranch : ∀ steps, OnlyFails Refusal (branch steps)) (s : Step) :
    OnlyFails Refusal (decodeStep hasAction branch s) := by
  unfold decodeStep
  dsimp only
  split
  · exact (onlyFails_shaped s.op _).bind fun p =>
      (hbranch p.2.1).bind fun _ => (hbranch p.2.2).bind fun _ => .ok _
  · exact (onlyFails_decodeAct s.op s.fields _).bind fun _ => .ok _
  · split
    · exact (onlyFails_shaped s.op _).bind fun _ => .ok _
    · exact .error (.unknown _)

theorem onlyFails_decodeWithin (hasAction : String → Bool) (limit levels : Nat)
    (steps : List Step) : OnlyFails Refusal (decodeWithin hasAction limit levels steps) := by
  induction levels generalizing steps with
  | zero => exact .error (.malformed _)
  | succ levels ih => exact OnlyFails.mapM steps (onlyFails_decodeStep ih)

/-- What the reader of recipes refuses, it refuses as malformed or as unknown. -/
theorem onlyFails_decode (hasAction : String → Bool) (limit : Nat) (steps : List Step) :
    OnlyFails Refusal (decode hasAction limit steps) :=
  onlyFails_decodeWithin hasAction limit (limit + 1) steps

end Node

end Planwright
