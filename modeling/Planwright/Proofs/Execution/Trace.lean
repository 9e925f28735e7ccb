import Planwright.Proofs.Execution.Outline

set_option autoImplicit false

/-!
# What a trace says

The entries of a trace are in the order of the outline of the recipe, no two of one step and none of
two branches of one conditional.  If the execution succeeds no entry has failed; if it fails, those
that have failed are one step, the last that was begun, and the conditionals around it
(`record_sound`).

The facts are proved of coherent histories, whose entries the trace shows.
-/

namespace Planwright

namespace Visit

/-! ## Where nothing failed -/

/-- Nothing fails inside what does not fail. -/
theorem isOk_of_mem_begun :
    (∀ v : Visit, v.Coherent → v.ended.isOk = true → ∀ u ∈ v.begun, u.ended.isOk = true) ∧
    ∀ (vs : List Visit) around index last, CoherentAll around index vs →
      (endOf last vs).isOk = true → ∀ u ∈ begunAll vs, u.ended.isOk = true := by
  refine Visit.induction ?plain ?branch ?nil ?cons
  case plain =>
    intro place head ended _ hok u hu
    rwa [List.mem_singleton.1 hu]
  case branch =>
    intro place head side inner ended ih hcoherent hok u hu
    rcases List.mem_cons.1 hu with rfl | hmem
    · exact hok
    · cases side with
      | error f =>
          obtain ⟨rfl, -⟩ := hcoherent
          exact absurd hmem List.not_mem_nil
      | ok b =>
          obtain ⟨hinner, rfl⟩ := hcoherent
          refine ih _ _ .null hinner ?_ u hmem
          cases hend : endOf .null inner with
          | ok flow => rfl
          | error stop =>
              simp only [ended, hend] at hok
              cases hok
  case nil =>
    intro _ _ _ _ _ u hu
    cases hu
  case cons =>
    intro v vs ihv ih around index last hcoherent hok u hu
    obtain ⟨-, hv, hgoes, hvs⟩ := hcoherent
    rcases hgoes with rfl | ⟨x, hnext⟩
    · rw [begunAll, begunAll, List.append_nil] at hu
      exact ihv hv hok u hu
    · rw [endOf_cons hnext] at hok
      rcases List.mem_append.1 hu with hu | hu
      · exact ihv hv (by rw [hnext]; rfl) u hu
      · exact ih _ _ _ hvs hok u hu

/-! ## The chain of what failed -/

/-- Of the steps begun in a list those failed that lead to one place, and the one at this place was
begun last. -/
def FailedAlong (around : List (Nat × Bool)) (stop : Stop) (begun : List Visit) : Prop :=
  ∃ rest index,
    (begun.filter fun v => !v.ended.isOk).map place
      = Place.enclosing around rest ++ [⟨around ++ rest, index⟩] ∧
    begun.getLast?.map place = some ⟨around ++ rest, index⟩ ∧
    ∀ v ∈ begun, ∀ other, v.ended = .error other → other = stop

theorem failedAlong_singleton {v : Visit} {stop : Stop} (h : v.ended = .error stop) :
    FailedAlong v.place.around stop [v] := by
  refine ⟨[], v.place.index, ?_, ?_, ?_⟩
  · simp [h, Place.enclosing]
  · simp
  · intro u hu other hother
    rw [List.mem_singleton.1 hu, h] at hother
    exact (Except.error.inj hother).symm

/-- The last step stays the last if others stand before. -/
theorem last_append {begun : List Visit} {p : Place} (before : List Visit)
    (h : begun.getLast?.map place = some p) : (before ++ begun).getLast?.map place = some p := by
  obtain ⟨u, hu, rfl⟩ := Option.map_eq_some_iff.1 h
  rw [List.getLast?_append, hu]
  rfl

/-- What failed in a branch failed along with the conditional. -/
theorem FailedAlong.cons {v : Visit} {stop : Stop} {b : Bool} {begun : List Visit}
    (hv : v.ended = .error stop) (h : FailedAlong (v.place.inside b) stop begun) :
    FailedAlong v.place.around stop (v :: begun) := by
  obtain ⟨rest, index, hfailed, hlast, hstop⟩ := h
  have haround : v.place.around ++ (v.place.index, b) :: rest = v.place.inside b ++ rest := by
    simp [Place.inside]
  refine ⟨(v.place.index, b) :: rest, index, ?_, ?_, ?_⟩
  · have hfirst : (v :: begun).filter (fun v => !v.ended.isOk)
        = v :: begun.filter fun v => !v.ended.isOk :=
      List.filter_cons_of_pos (by rw [hv]; rfl)
    rw [haround, Place.enclosing, hfirst, List.map_cons, hfailed]
    rfl
  · rw [haround]
    exact last_append [v] hlast
  · intro u hu other hother
    rcases List.mem_cons.1 hu with rfl | hu
    · rw [hv] at hother
      exact (Except.error.inj hother).symm
    · exact hstop u hu other hother

/-- What failed is the same if steps that did not fail were begun before. -/
theorem FailedAlong.append {around : List (Nat × Bool)} {stop : Stop} {before begun : List Visit}
    (hbefore : ∀ v ∈ before, v.ended.isOk = true) (h : FailedAlong around stop begun) :
    FailedAlong around stop (before ++ begun) := by
  obtain ⟨rest, index, hfailed, hlast, hstop⟩ := h
  refine ⟨rest, index, ?_, ?_, ?_⟩
  · have hnone : before.filter (fun v => !v.ended.isOk) = [] := by
      rw [List.filter_eq_nil_iff]
      intro v hv
      simp [hbefore v hv]
    rw [List.filter_append, hnone, List.nil_append, hfailed]
  · exact last_append before hlast
  · intro v hv other hother
    rcases List.mem_append.1 hv with hv | hv
    · have hok := hbefore v hv
      rw [hother] at hok
      cases hok
    · exact hstop v hv other hother

/-- What failed is a step and the conditionals around it. -/
theorem failedAlong_begun :
    (∀ (v : Visit) stop, v.Coherent → v.ended = .error stop →
      FailedAlong v.place.around stop v.begun) ∧
    ∀ (vs : List Visit) around index last stop, CoherentAll around index vs →
      endOf last vs = .error stop → FailedAlong around stop (begunAll vs) := by
  refine Visit.induction ?plain ?branch ?nil ?cons
  case plain =>
    intro place head ended stop _ hended
    exact failedAlong_singleton hended
  case branch =>
    intro place head side inner ended ih stop hcoherent hended
    cases side with
    | error f =>
        obtain ⟨rfl, -⟩ := hcoherent
        exact failedAlong_singleton hended
    | ok b =>
        obtain ⟨hinner, hend⟩ := hcoherent
        refine FailedAlong.cons hended (ih _ _ .null stop hinner ?_)
        cases hbranch : endOf .null inner with
        | ok flow =>
            rw [hend, hbranch] at hended
            cases hended
        | error other =>
            rw [hend, hbranch] at hended
            exact hended
  case nil =>
    intro around index last stop _ hend
    cases hend
  case cons =>
    intro v vs ihv ih around index last stop hcoherent hend
    obtain ⟨hplace, hv, hgoes, hvs⟩ := hcoherent
    rcases hgoes with rfl | ⟨x, hnext⟩
    · have hfailed := ihv stop hv hend
      rw [hplace] at hfailed
      rwa [begunAll, begunAll, List.append_nil]
    · rw [endOf_cons hnext] at hend
      refine FailedAlong.append ?_ (ih _ _ _ stop hvs hend)
      exact isOk_of_mem_begun.1 v hv (by rw [hnext]; rfl)

/-! ## Branches taken -/

/-- The branch that the condition of a step has led to. -/
def side? : Visit → Option Bool
  | .branch _ _ (.ok b) _ _ => some b
  | _ => none

/-- A step in a branch was begun only if the condition of the conditional has led there. -/
theorem side_of_inside_prefix :
    (∀ v : Visit, v.Coherent → ∀ u ∈ v.begun, ∀ (c : Place) b, c.inside b <+: u.place.around →
      c.inside b <+: v.place.around ∨ ∃ w ∈ v.begun, w.place = c ∧ w.side? = some b) ∧
    ∀ (vs : List Visit) around index, CoherentAll around index vs →
      ∀ u ∈ begunAll vs, ∀ (c : Place) b, c.inside b <+: u.place.around →
        c.inside b <+: around ∨ ∃ w ∈ begunAll vs, w.place = c ∧ w.side? = some b := by
  refine Visit.induction ?plain ?branch ?nil ?cons
  case plain =>
    intro place head ended _ u hu c b hinside
    rw [List.mem_singleton.1 hu] at hinside
    exact .inl hinside
  case branch =>
    intro place head side inner ended ih hcoherent u hu c b hinside
    rcases List.mem_cons.1 hu with rfl | hmem
    · exact .inl hinside
    · cases side with
      | error f =>
          obtain ⟨rfl, -⟩ := hcoherent
          exact absurd hmem List.not_mem_nil
      | ok d =>
          obtain ⟨hinner, -⟩ := hcoherent
          rcases ih _ _ hinner u hmem c b hinside with hbranch | ⟨w, hw, hplace, hside⟩
          · -- the branch of `c` is the one around `u` itself, or it is further out
            rcases List.prefix_concat_iff.1 hbranch with heq | hout
            · have hprefix : place.inside d <+: c.inside b := by
                rw [heq]
                exact List.prefix_refl _
              have hdepth : c.around.length = place.around.length := by
                simpa [Place.inside] using congrArg List.length heq
              obtain ⟨rfl, rfl⟩ := Place.inside_inj (List.prefix_refl (c.inside b)) hprefix hdepth
              exact .inr ⟨_, List.mem_cons_self, rfl, rfl⟩
            · exact .inl hout
          · exact .inr ⟨w, List.mem_cons_of_mem _ hw, hplace, hside⟩
  case nil =>
    intro _ _ _ u hu
    exact absurd hu List.not_mem_nil
  case cons =>
    intro v vs ihv ih around index hcoherent u hu c b hinside
    obtain ⟨hplace, hv, -, hvs⟩ := hcoherent
    rcases List.mem_append.1 hu with hmem | hmem
    · rcases ihv hv u hmem c b hinside with hout | ⟨w, hw, hfound⟩
      · rw [hplace] at hout
        exact .inl hout
      · exact .inr ⟨w, List.mem_append_left _ hw, hfound⟩
    · rcases ih _ _ hvs u hmem c b hinside with hout | ⟨w, hw, hfound⟩
      · exact .inl hout
      · exact .inr ⟨w, List.mem_append_right _ hw, hfound⟩

/-- Steps are begun in one branch of a conditional only. -/
theorem side_inj {vs : List Visit} (hcoherent : CoherentAll [] 0 vs)
    (hplaces : ((begunAll vs).map place).Nodup) {u w : Visit} (hu : u ∈ begunAll vs)
    (hw : w ∈ begunAll vs) {c : Place} {b d : Bool} (hb : c.inside b <+: u.place.around)
    (hd : c.inside d <+: w.place.around) : b = d := by
  have htaken {u : Visit} (hu : u ∈ begunAll vs) {b : Bool} (hb : c.inside b <+: u.place.around) :
      ∃ v ∈ begunAll vs, v.place = c ∧ v.side? = some b := by
    rcases side_of_inside_prefix.2 vs [] 0 hcoherent u hu c b hb with hout | htaken
    · simp [Place.inside] at hout
    · exact htaken
  obtain ⟨v, hv, hplace, hside⟩ := htaken hu hb
  obtain ⟨v', hv', hplace', hside'⟩ := htaken hw hd
  obtain rfl : v = v' := List.inj_on_of_nodup_map hplaces hv hv' (hplace.trans hplace'.symm)
  exact Option.some.inj (hside.symm.trans hside')

/-! ## Entries -/

variable {vs : List Visit} {trace : List StepTrace}

/-- What the entries of a trace say about their steps. -/
theorem map_shown (h : List.Forall₂ Shows vs trace) :
    trace.map (fun t => (t.path, t.op)) = vs.map fun v => (v.place.text, v.head.op) :=
  (Correspondence.map_eq (fun _ _ hshows => Prod.ext hshows.path.symm hshows.op.symm) h).symm

theorem paths_shown (h : List.Forall₂ Shows vs trace) :
    trace.map (·.path) = (vs.map place).map Place.text := by
  rw [List.map_map]
  exact (Correspondence.map_eq (fun _ _ hshows => hshows.path.symm) h).symm

theorem Shows.failed_iff {v : Visit} {t : StepTrace} (h : v.Shows t) :
    t.status = .failed ↔ v.ended.isOk = false := by
  cases hended : v.ended with
  | ok flow =>
      rcases h.done flow hended with hstatus | ⟨hstatus, -⟩ <;> simp [hstatus]
  | error stop => simp [(h.failed stop hended).1]

/-- The entries that have failed are those of the steps that failed. -/
theorem filter_shown (h : List.Forall₂ Shows vs trace) :
    List.Forall₂ Shows (vs.filter fun v => !v.ended.isOk)
      (trace.filter fun t => t.status = .failed) := by
  refine List.rel_filter (fun v t hshows => ?_) h
  simp [hshows.failed_iff]

end Visit

/-! ## Sound traces -/

/-- The entries of a trace that have failed are those of the step at a place and of the conditionals
around it, the one of this step is the last entry, and all of them report one failure. -/
structure FailedAt (trace : List StepTrace) (p : Place) (f : Failure) : Prop where
  chain : (trace.filter fun t => t.status = .failed).map (·.path) = p.lineage.map Place.text
  last : trace.getLast?.map (·.path) = some p.text
  error : ∀ t ∈ trace, t.status = .failed → t.error = some f.message

/-- What a finished trace says is right for a recipe with an outline and for the result of its
execution; `cut` is whether the caller had given up before. -/
structure SoundTrace (listed : List (Place × Step)) (cut : Bool) (result : Except Failure Value)
    (trace : List StepTrace) : Prop where
  finished : ∀ t ∈ trace, t.status ≠ .running
  /-- each entry is that of a step, and they are in pre-order -/
  preorder : (trace.map fun t => (t.path, t.op)).Sublist (listed.map fun e => (e.1.text, e.2.op))
  distinct : (trace.map (·.path)).Nodup
  /-- no entries are of steps in different branches of one conditional -/
  oneBranch : ∀ (c : Place), ∀ t ∈ trace, ∀ u ∈ trace,
    (c.opening true).toList <+: t.path.toList → ¬ (c.opening false).toList <+: u.path.toList
  success : ∀ v, result = .ok v → ∀ t ∈ trace, t.status ≠ .failed
  failure : ∀ f, result = .error f →
    (trace = [] ∧ cut = true ∧ f = .cancelled) ∨ ∃ p, FailedAt trace p f

namespace Visit

variable {vs : List Visit} {trace : List StepTrace}

/-- If steps in order fail, so does one step, the last that was begun, with the conditionals around
it. -/
theorem exists_failedAt {last : Value} {stop : Stop} (hcoherent : CoherentAll [] 0 vs)
    (hshown : List.Forall₂ Shows (begunAll vs) trace) (hend : endOf last vs = .error stop) :
    ∃ p, FailedAt trace p stop.failure := by
  obtain ⟨rest, index, hfailed, hlast, hstop⟩ :=
    failedAlong_begun.2 vs [] 0 last stop hcoherent hend
  refine ⟨⟨rest, index⟩, ?chain, ?last, ?error⟩
  case chain =>
    have hpaths := paths_shown (filter_shown hshown)
    rw [hfailed] at hpaths
    exact hpaths
  case last =>
    have hpaths := congrArg List.getLast? (paths_shown hshown)
    rw [List.getLast?_map, List.getLast?_map, List.getLast?_map, hlast] at hpaths
    exact hpaths
  case error =>
    intro t ht hstatus
    obtain ⟨v, hv, hshows⟩ := Correspondence.exists_left hshown ht
    have hended := hshows.failed_iff.1 hstatus
    cases hother : v.ended with
    | ok flow =>
        rw [hother] at hended
        cases hended
    | error other =>
        rw [← hstop v hv other hother]
        exact (hshows.failed other hother).2

/-- If steps in order succeed, none of them has failed. -/
theorem not_failed_of_shown (last : Value) (hcoherent : CoherentAll [] 0 vs)
    (hshown : List.Forall₂ Shows (begunAll vs) trace) (hend : (endOf last vs).isOk = true) :
    ∀ t ∈ trace, t.status ≠ .failed := by
  intro t ht hstatus
  obtain ⟨v, hv, hshows⟩ := Correspondence.exists_left hshown ht
  have hok := isOk_of_mem_begun.2 vs [] 0 last hcoherent hend v hv
  rw [hshows.failed_iff.1 hstatus] at hok
  cases hok

theorem Shows.finished {v : Visit} {t : StepTrace} (h : v.Shows t) : t.status ≠ .running := by
  cases hended : v.ended with
  | ok flow => rcases h.done flow hended with hstatus | ⟨hstatus, -⟩ <;> simp [hstatus]
  | error stop => simp [(h.failed stop hended).1]

/-- Two entries show that the two branches of one conditional are not both taken. -/
theorem not_both_branches (hcoherent : CoherentAll [] 0 vs)
    (hplaces : ((begunAll vs).map place).Nodup) (hshown : List.Forall₂ Shows (begunAll vs) trace)
    (c : Place) {t u : StepTrace} (ht : t ∈ trace) (hu : u ∈ trace)
    (htrue : (c.opening true).toList <+: t.path.toList) :
    ¬ (c.opening false).toList <+: u.path.toList := by
  intro hfalse
  obtain ⟨v, hv, hshows⟩ := Correspondence.exists_left hshown ht
  obtain ⟨w, hw, hshows'⟩ := Correspondence.exists_left hshown hu
  rw [hshows.path] at htrue
  rw [hshows'.path] at hfalse
  have hsides := side_inj hcoherent hplaces hv hw (Place.inside_prefix_of_opening_prefix htrue)
    (Place.inside_prefix_of_opening_prefix hfalse)
  cases hsides

end Visit

namespace Surroundings

/-- An execution of a recipe that is read ends as its history does, unless the caller has given up
before. -/
theorem run_ended {s : Surroundings} {w : World} {r : Recipe} {nodes : List Node}
    (hread : Node.decode w.catalog.hasAction s.config.maxDepth r.steps = .ok nodes) :
    (s.isCut w.now = true ∧ (s.run w r).1 = .error .interrupted ∧ s.history w r = []) ∨
      (s.run w r).1 = Visit.endOf .null (s.history w r) := by
  rcases s.run_cases w r with ⟨f, hrefused, -⟩ | ⟨hcut, hrun, hhistory⟩ | ⟨_, -, hrun, hhistory⟩
  · cases hread.symm.trans hrefused
  · exact .inl ⟨hcut, by rw [hrun], hhistory⟩
  · refine .inr ?_
    rw [hrun, hhistory, endOf_visits]

/-- The entries of an execution show the steps that were begun. -/
theorem shown_steps (s : Surroundings) (w : World) (r : Recipe) :
    List.Forall₂ Visit.Shows (Visit.begunAll (s.history w r)) (s.execute w r).1.steps :=
  (s.accounts_history w r).entries

/-- The steps that an execution begins stand at different places. -/
theorem places_begun_nodup {s : Surroundings} {w : World} {r : Recipe}
    {listed : List (Place × Step)} (houtline : Step.Outline [] 0 r.steps listed)
    (hsub : ((Visit.begunAll (s.history w r)).map fun v => (v.place, v.head)).Sublist
      (listed.map fun e => (e.1, e.2.head))) :
    ((Visit.begunAll (s.history w r)).map Visit.place).Nodup := by
  have hplaces := hsub.map Prod.fst
  simp only [List.map_map, Function.comp_def] at hplaces
  exact hplaces.nodup houtline.places_nodup

/-- If an execution succeeds, no step has failed. -/
theorem not_failed_of_result_eq_ok {s : Surroundings} {w : World} {r : Recipe}
    {nodes : List Node}
    (hread : Node.decode w.catalog.hasAction s.config.maxDepth r.steps = .ok nodes) {v : Value}
    (h : (s.execute w r).1.result = .ok v) : ∀ t ∈ (s.execute w r).1.steps, t.status ≠ .failed := by
  replace h : Execution.resultOf (s.run w r).1 = .ok v := h
  rcases run_ended hread with ⟨-, hcut, -⟩ | hend
  · rw [hcut] at h
    cases h
  · refine Visit.not_failed_of_shown .null (s.coherentAll_history w r) (s.shown_steps w r) ?_
    rw [← hend]
    cases hrun : (s.run w r).1 with
    | ok flow => rfl
    | error stop =>
        rw [hrun] at h
        cases h

/-- If an execution of a recipe that is read fails, one step has, unless the caller has given up
before. -/
theorem failedAt_of_result_eq_error {s : Surroundings} {w : World} {r : Recipe}
    {nodes : List Node}
    (hread : Node.decode w.catalog.hasAction s.config.maxDepth r.steps = .ok nodes) {f : Failure}
    (h : (s.execute w r).1.result = .error f) :
    ((s.execute w r).1.steps = [] ∧ s.isCut w.now = true ∧ f = .cancelled) ∨
      ∃ p, FailedAt (s.execute w r).1.steps p f := by
  have hshown := s.shown_steps w r
  replace h : Execution.resultOf (s.run w r).1 = .error f := h
  rcases run_ended hread with ⟨hcut, hended, hhistory⟩ | hend
  · rw [hhistory] at hshown
    rw [hended] at h
    exact .inl ⟨List.forall₂_nil_left_iff.1 hshown, hcut, (Except.error.inj h).symm⟩
  · cases hrun : (s.run w r).1 with
    | ok flow =>
        rw [hrun] at h
        cases h
    | error stop =>
        rw [hrun] at h
        obtain rfl : stop.failure = f := Except.error.inj h
        exact .inr (Visit.exists_failedAt (s.coherentAll_history w r) hshown (hend.symm.trans hrun))

/-- **Sound traces.**  Whatever providers and actions answer and whenever the caller gives up, the
record of a recipe that is read is sound: its entries are finished, are those of different steps of
the recipe in pre-order and in one branch of each conditional, and the ones that failed are none if
the execution succeeds, and else the last step begun with the conditionals around it. -/
theorem record_sound (s : Surroundings) (w : World) (r : Recipe) {nodes : List Node}
    (hread : Node.decode w.catalog.hasAction s.config.maxDepth r.steps = .ok nodes) (id : String)
    (calendar : Nat → Timestamp) :
    ∃ listed, Step.Outline [] 0 r.steps listed ∧ (listed.map (·.1.text)).Nodup ∧
      SoundTrace listed (s.isCut w.now) (s.execute w r).1.result
        ((s.execute w r).1.record id calendar).steps := by
  obtain ⟨listed, houtline, hsub⟩ := exists_outline_of_decode hread
  refine ⟨listed, houtline, houtline.texts_nodup, ?_⟩
  have hsteps : ((s.execute w r).1.record id calendar).steps = (s.execute w r).1.steps := rfl
  rw [hsteps]
  have hshown := s.shown_steps w r
  have hplaces := places_begun_nodup houtline hsub
  refine ⟨?finished, ?preorder, ?distinct, ?oneBranch, ?success, ?failure⟩
  case finished =>
    intro t ht
    obtain ⟨v, -, hshows⟩ := Correspondence.exists_left hshown ht
    exact hshows.finished
  case preorder =>
    have hpreorder := hsub.map fun e => (e.1.text, e.2.op)
    simp only [List.map_map, Function.comp_def] at hpreorder
    rwa [← Visit.map_shown hshown] at hpreorder
  case distinct =>
    rw [Visit.paths_shown hshown]
    exact hplaces.map Place.text_injective
  case oneBranch =>
    intro c t ht u hu
    exact Visit.not_both_branches (s.coherentAll_history w r) hplaces hshown c ht hu
  case success => exact fun v hv => not_failed_of_result_eq_ok hread hv
  case failure => exact fun f hf => failedAt_of_result_eq_error hread hf

/-- A network that never answers, the standard settings, and a caller who does not give up. -/
def unanswered : Surroundings := ⟨fun _ _ => ⟨none, .ok ⟨200, .null⟩⟩, .standard, none⟩

/-- A recipe that fails in a branch, after one step in this branch and before another. -/
def failingBranch : Recipe :=
  ⟨1.0,
    [⟨"conditional", some "outcome", false,
        [("condition", .bool true),
          ("ifTrue", .list
            [.object [("template", .text "begun"), ("type", .text "formatResponse")],
              .object [("message", .text "out of stock"), ("type", .text "error")],
              .object [("template", .text "done"), ("type", .text "formatResponse")]])]⟩,
      ⟨"formatResponse", none, true, [("template", .text "answer")]⟩],
    []⟩

theorem record_sound_failingBranch :
    ((unanswered.execute ⟨7, .empty .standard, [], []⟩ failingBranch).1.steps.map
        fun t => (t.path, t.status))
      = [("0", .failed), ("0/ifTrue/0", .completed), ("0/ifTrue/1", .failed)] ∧
    ∃ listed, Step.Outline [] 0 failingBranch.steps listed ∧ (listed.map (·.1.text)).Nodup ∧
      SoundTrace listed (unanswered.isCut 7)
        (unanswered.execute ⟨7, .empty .standard, [], []⟩ failingBranch).1.result
        ((unanswered.execute ⟨7, .empty .standard, [], []⟩ failingBranch).1.record "r"
          fun _ => default).steps :=
  ⟨by decide +kernel,
    record_sound unanswered ⟨7, .empty .standard, [], []⟩ failingBranch rfl "r" fun _ => default⟩

end Surroundings

end Planwright
