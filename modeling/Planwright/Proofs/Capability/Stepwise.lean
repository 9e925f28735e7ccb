import Planwright.Proofs.Provider.Lookup

set_option autoImplicit false

/-!
# Operations statement by statement

The tables of a catalog are changed in place, one after the other, and an operation that fails in
the middle leaves them as the statements before have made them.  Here the operations are written out
as such statements.  Carried out so, each of them has the outcome that it has as a whole: all its
checks come before its first change, so that a failure finds the catalog as it was (`run_edit`,
`run_registerAll`).
-/

namespace Planwright

/-! ## Tables -/

namespace Dict

variable {α : Type}

theorem place_of_notMem {key : String} {d : Dict α} (h : key ∉ d.keys) (value : α) :
    d.place key value = d ++ [(key, value)] := by
  induction d with
  | nil => rfl
  | cons e d ih =>
      obtain ⟨k, v⟩ := e
      obtain ⟨hk, hd⟩ := not_or.1 (mt List.mem_cons.2 h)
      rw [place, if_neg (Ne.symm hk), ih hd, List.cons_append]

/-- Entries under new names are put behind the others, in their order. -/
theorem foldl_place {entries d : Dict α} (hnodup : entries.keys.Nodup)
    (hnew : ∀ key ∈ entries.keys, key ∉ d.keys) :
    entries.foldl (fun d e => d.place e.1 e.2) d = d ++ entries := by
  induction entries generalizing d with
  | nil => exact (List.append_nil d).symm
  | cons e entries ih =>
      obtain ⟨he, hrest⟩ := List.nodup_cons.1 hnodup
      have hplaced : (d.place e.1 e.2).keys = d.keys ++ [e.1] :=
        keys_place_of_notMem (hnew e.1 List.mem_cons_self) e.2
      rw [List.foldl_cons, ih hrest, place_of_notMem (hnew e.1 List.mem_cons_self),
        List.append_assoc]
      · rfl
      · intro key hkey hmem
        rw [hplaced] at hmem
        rcases List.mem_append.1 hmem with hmem | hmem
        · exact hnew key (List.mem_cons_of_mem _ hkey) hmem
        · exact he (List.mem_singleton.1 hmem ▸ hkey)

/-- Taking names away one after the other takes away all of them. -/
theorem foldl_erase (names : List String) (d : Dict α) :
    names.foldl erase d = d.filter fun e => !names.contains e.1 := by
  induction names generalizing d with
  | nil => exact (List.filter_eq_self.2 fun _ _ => rfl).symm
  | cons name names ih =>
      rw [List.foldl_cons, ih, erase, List.filter_filter]
      refine List.filter_congr fun e _ => ?_
      by_cases h : e.1 = name <;> simp [h]

end Dict

namespace Providers

/-- Puts an entry at the end, or in the place of one of the same name. -/
def insert (r : Providers) (e : ProviderEntry) : Providers :=
  if r.contains e.id then r.adjust e.id fun _ => e else r.add e

theorem insert_of_notMem {r : Providers} {e : ProviderEntry} (h : e.id ∉ r.ids) :
    r.insert e = r.add e := by
  rw [insert, if_neg (mt contains_iff.1 h)]

/-- Entries of new names are put behind the others, in their order. -/
theorem foldl_insert {entries : List ProviderEntry} {r : Providers}
    (hnodup : (entries.map (·.id)).Nodup) (hnew : ∀ e ∈ entries, e.id ∉ r.ids) :
    entries.foldl insert r = { r with entries := r.entries ++ entries } := by
  induction entries generalizing r with
  | nil => rw [List.append_nil]; rfl
  | cons e entries ih =>
      obtain ⟨he, hrest⟩ := List.nodup_cons.1 hnodup
      rw [List.foldl_cons, insert_of_notMem (hnew e List.mem_cons_self), ih hrest, add,
        List.append_assoc]
      · rfl
      · intro d hd hmem
        have hids : (r.add e).ids = r.ids ++ [e.id] := List.map_append
        rw [hids] at hmem
        rcases List.mem_append.1 hmem with hmem | hmem
        · exact hnew d (List.mem_cons_of_mem _ hd) hmem
        · exact he (List.mem_map.2 ⟨d, hd, List.mem_singleton.1 hmem⟩)

end Providers

/-! ## Statements -/

/-- Statements that read and change the catalog.  One that fails leaves it as it is then. -/
abbrev Editing (α : Type) : Type := EStateM Failure Catalog α

namespace Editing

/-- Something that may fail, but does not touch the catalog. -/
def check {α : Type} : Except Failure α → Editing α
  | .ok a => pure a
  | .error f => throw f

/-- Checks providers that come together. -/
def checkAll (before : List String) : List (String × Manifest) → Editing Unit
  | [] => pure ()
  | (id, m) :: rest => do
    check (m.validate id)
    let k ← get
    if k.providers.contains id || before.contains id then throw (Providers.taken id)
    else checkAll (id :: before) rest

/-- Registers one provider. -/
def register (id : String) (m : Manifest) : Editing Unit := do
  check (m.validate id)
  let k ← get
  if k.providers.contains id then throw (Providers.taken id)
  else modify fun k => { k with providers := k.providers.insert (.new id m none) }

/-- Registers providers that an owner brings along, one after the other once all of them are
checked. -/
def registerAll (owner : String) (batch : List (String × Manifest)) : Editing Unit := do
  checkAll [] batch
  modify fun k =>
    { k with providers := (Providers.brought owner batch).foldl Providers.insert k.providers }

/-- Puts the actions of a bundle into their table, one after the other, and its record into
another. -/
def enter (c : Capability) (triggers : List Trigger) : Editing Unit := do
  modify fun k =>
    { k with actions := (Catalog.boundActions c).foldl (fun d a => d.place a.1 a.2) k.actions }
  modify fun k =>
    { k with capabilities := k.capabilities.place c.name (Catalog.recordOf c triggers) }

/-- Installs a bundle: its providers first, since they may still be refused. -/
def install (c : Capability) : Editing Unit := do
  let triggers ← check c.validate
  let k ← get
  if k.capabilities.contains c.name then
    throw (.invalid ("capability '" ++ c.name ++ "' is already installed"))
  else
    match (Catalog.boundActions c).keys.find? k.actions.contains with
    | some taken => throw (.invalid ("custom action '" ++ taken ++ "' is already registered"))
    | none => do
      registerAll c.name c.providers
      enter c triggers

/-- Uninstalls a capability: its record first, then its actions, one after the other, and last its
providers. -/
def uninstall (name : String) : Editing Unit := do
  let k ← get
  match k.capabilities.get? name with
  | none => throw (.invalid ("capability '" ++ name ++ "' is not installed"))
  | some record => do
    modify fun k => { k with capabilities := k.capabilities.erase name }
    modify fun k => { k with actions := record.actions.foldl Dict.erase k.actions }
    modify fun k => { k with providers := k.providers.removeOwnedBy name }

/-- Carries out an operation. -/
def edit : Operation → Editing Unit
  | .register id m => register id m
  | .install c _ => install c
  | .uninstall name => uninstall name

/-! ## Outcomes -/

/-- All or nothing: the catalog after an operation, or the one before it with a failure. -/
def outcome (k : Catalog) : Except Failure Catalog → EStateM.Result Failure Catalog Unit
  | .ok k' => .ok () k'
  | .error f => .error f k

theorem eq_of_outcome_eq_error {k k' : Catalog} {x : Except Failure Catalog} {f : Failure}
    (h : outcome k x = .error f k') : k' = k := by
  cases x with
  | ok => cases h
  | error => exact (EStateM.Result.error.inj h).2.symm

variable {α β : Type} {k k' : Catalog}

theorem run_check_bind (x : Except Failure α) (f : α → Editing β) (k : Catalog) :
    (check x >>= f).run k = match x with
      | .ok a => (f a).run k
      | .error e => .error e k := by
  cases x <;> rfl

theorem run_get_bind (f : Catalog → Editing β) (k : Catalog) :
    (get >>= f).run k = (f k).run k := rfl

theorem run_modify_bind (g : Catalog → Catalog) (f : PUnit → Editing β) (k : Catalog) :
    (modify g >>= f).run k = (f ⟨⟩).run (g k) := rfl

theorem run_modify (g : Catalog → Catalog) (k : Catalog) :
    (modify g : Editing PUnit).run k = .ok ⟨⟩ (g k) := rfl

theorem run_bind (x : Editing α) (f : α → Editing β) (k : Catalog) :
    (x >>= f).run k = match x.run k with
      | .ok a k' => (f a).run k'
      | .error e k' => .error e k' := by
  simp only [EStateM.run, bind, EStateM.bind]
  cases x k <;> rfl

/-- The checks find the catalog and leave it. -/
theorem run_checkAll (k : Catalog) (before : List String) (batch : Dict Manifest) :
    (checkAll before batch).run k = (check (k.providers.checkAll before batch)).run k := by
  induction batch generalizing before with
  | nil => rfl
  | cons p batch ih =>
      obtain ⟨id, m⟩ := p
      rw [checkAll, Providers.checkAll, run_check_bind]
      cases m.validate id with
      | error f => rfl
      | ok u =>
          dsimp only
          rw [run_get_bind]
          split
          · rfl
          · exact ih _

theorem run_register (k : Catalog) (id : String) (m : Manifest) :
    (register id m).run k
      = outcome k ((k.providers.register id m).map fun p => { k with providers := p }) := by
  rw [register, Providers.register, run_check_bind]
  cases m.validate id with
  | error f => rfl
  | ok u =>
      dsimp only
      rw [run_get_bind]
      split
      · rfl
      · next hfree =>
        have hnew : (ProviderEntry.new id m none).id ∉ k.providers.ids :=
          mt Providers.contains_iff.2 hfree
        rw [run_modify, Providers.insert_of_notMem hnew]
        rfl

theorem run_registerAll (k : Catalog) (owner : String) (batch : Dict Manifest) :
    (registerAll owner batch).run k
      = outcome k
          ((k.providers.registerAll owner batch).map fun p => { k with providers := p }) := by
  rw [registerAll, Providers.registerAll, run_bind, run_checkAll]
  cases hchecked : k.providers.checkAll [] batch with
  | error f => rfl
  | ok u =>
      -- the checks have found all names to be new, so no entry takes the place of another
      obtain ⟨hnodup, hfree⟩ := Providers.checkAll_eq_ok hchecked
      have hids := Providers.map_id_brought owner batch
      have hinserted := Providers.foldl_insert (hids ▸ hnodup) fun e he =>
        (hfree e.id (hids ▸ List.mem_map_of_mem he)).1
      refine (run_modify _ k).trans ?_
      rw [hinserted]
      rfl

/-- Actions and record are put behind the others if their names are free. -/
theorem run_enter (k : Catalog) {c : Capability} (built : c.Built) {triggers : List Trigger}
    (hvalid : c.validate = .ok triggers) (hnew : k.capabilities.contains c.name = false)
    (hactions : (Catalog.boundActions c).keys.find? k.actions.contains = none)
    (providers : Providers) :
    (enter c triggers).run { k with providers := providers }
      = .ok () (Catalog.installed k c triggers providers) := by
  obtain ⟨hdot, hbound⟩ := Capability.sound_of_validate hvalid
  have hnodup : (Catalog.boundActions c).keys.Nodup := by
    rw [Catalog.keys_boundActions hbound]
    exact Catalog.nodup_actionNames built hdot
  have hfree : ∀ key ∈ (Catalog.boundActions c).keys, key ∉ k.actions.keys := by
    intro key hkey hmem
    exact List.find?_eq_none.1 hactions key hkey (Dict.contains_iff.2 hmem)
  have hname : c.name ∉ k.capabilities.keys := by
    rw [← Dict.contains_iff, hnew]
    exact Bool.false_ne_true
  rw [enter, run_modify_bind, run_modify, Dict.foldl_place hnodup hfree,
    Dict.place_of_notMem hname]
  rfl

/-- An installation that is carried out statement by statement succeeds or fails as a whole. -/
theorem run_install (k : Catalog) {c : Capability} (built : c.Built) :
    (install c).run k = outcome k (k.install c) := by
  rw [install, run_check_bind]
  cases hvalid : c.validate with
  | error f =>
      have hrefused : k.install c = .error f := by
        unfold Catalog.install
        rw [hvalid]
        rfl
      rw [hrefused]
      rfl
  | ok triggers =>
      dsimp only
      rw [run_get_bind]
      cases hinstalled : k.capabilities.contains c.name with
      | true =>
          have hrefused : k.install c
              = .error (.invalid ("capability '" ++ c.name ++ "' is already installed")) := by
            unfold Catalog.install
            simp only [hvalid, bind, Except.bind, hinstalled]
            rfl
          rw [hrefused]
          rfl
      | false =>
          rw [Catalog.install_of_validate hvalid hinstalled]
          cases hactions : (Catalog.boundActions c).keys.find? k.actions.contains with
          | some taken => rfl
          | none =>
              simp only [Bool.false_eq_true, if_false]
              rw [run_bind, run_registerAll]
              cases k.providers.registerAll c.name c.providers with
              | error f => rfl
              | ok providers => exact run_enter k built hvalid hinstalled hactions providers

theorem run_uninstall (k : Catalog) (name : String) :
    (uninstall name).run k = outcome k (k.uninstall name) := by
  rw [uninstall, Catalog.uninstall, run_get_bind]
  cases k.capabilities.get? name with
  | none => rfl
  | some record =>
      dsimp only
      rw [run_modify_bind, run_modify_bind, run_modify, Dict.foldl_erase]
      rfl

/-- Every operation that is carried out statement by statement succeeds or fails as a whole. -/
theorem run_edit (k : Catalog) (op : Operation) : (edit op).run k = outcome k (k.attempt op) := by
  cases op with
  | register id m => exact run_register k id m
  | install c built => exact run_install k built
  | uninstall name => exact run_uninstall k name

end Editing

end Planwright
