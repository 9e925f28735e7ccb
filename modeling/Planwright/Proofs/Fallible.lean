set_option autoImplicit false

/-!
# Sequences of steps that may fail

Readers and interpreters are sequences of steps each of which may fail.  Such a sequence is taken
apart in two ways: if it succeeds then every step of it did (`bind_eq_ok`, `ok_of_mapM_eq_ok`), and
whatever it fails with is a failure of one of its steps (`OnlyFails`).  Whatever it gives, its last
step gives (`OnlyGives`).
-/

namespace Planwright.Fallible

variable {ε α β : Type}

/-! ## Success -/

@[simp] theorem isOk_ok (a : α) : (Except.ok a : Except ε α).isOk = true := rfl

@[simp] theorem isOk_error (e : ε) : (Except.error e : Except ε α).isOk = false := rfl

theorem eq_ok_of_toOption {x : Except ε α} {a : α} (h : x.toOption = some a) : x = .ok a := by
  cases x with
  | error e => cases h
  | ok b => rw [Option.some.inj h]

theorem bind_eq_ok {x : Except ε α} {f : α → Except ε β} {b : β} :
    (x >>= f) = .ok b ↔ ∃ a, x = .ok a ∧ f a = .ok b := by
  cases x with
  | error e => simp [bind, Except.bind]
  | ok a => simp [bind, Except.bind]

theorem map_eq_ok {x : Except ε α} {f : α → β} {b : β} :
    x.map f = .ok b ↔ ∃ a, x = .ok a ∧ f a = b := by
  cases x with
  | error e => simp [Except.map]
  | ok a => simp [Except.map]

theorem map_eq_error {x : Except ε α} {f : α → β} {e : ε} : x.map f = .error e ↔ x = .error e := by
  cases x with
  | error e' => simp [Except.map]
  | ok a => simp [Except.map]

/-- What was done to every item succeeded for each of them, and left its result. -/
theorem ok_of_mapM_eq_ok {f : α → Except ε β} {xs : List α} {ys : List β}
    (h : xs.mapM f = .ok ys) {x : α} (hx : x ∈ xs) : ∃ y ∈ ys, f x = .ok y := by
  induction xs generalizing ys with
  | nil => cases hx
  | cons head tail ih =>
      rw [List.mapM_cons, bind_eq_ok] at h
      obtain ⟨y, hhead, h⟩ := h
      obtain ⟨rest, htail, hys⟩ := bind_eq_ok.1 h
      obtain rfl : y :: rest = ys := Except.ok.inj hys
      rcases List.mem_cons.1 hx with rfl | hx
      · exact ⟨y, List.mem_cons_self, hhead⟩
      · obtain ⟨z, hz, hfx⟩ := ih htail hx
        exact ⟨z, List.mem_cons_of_mem y hz, hfx⟩

/-- What succeeds for every item succeeds for all of them. -/
theorem exists_mapM_eq_ok {f : α → Except ε β} {xs : List α} (h : ∀ x ∈ xs, ∃ y, f x = .ok y) :
    ∃ ys, xs.mapM f = .ok ys := by
  induction xs with
  | nil => exact ⟨[], rfl⟩
  | cons x xs ih =>
      obtain ⟨⟨y, hy⟩, hrest⟩ := List.forall_mem_cons.1 h
      obtain ⟨ys, hys⟩ := ih hrest
      exact ⟨y :: ys, by rw [List.mapM_cons, hy, hys]; rfl⟩

/-- What an item has in common with its result, all items have with theirs. -/
theorem map_eq_of_mapM_eq_ok {γ : Type} {f : α → Except ε β} {g : α → γ} {k : β → γ}
    (h : ∀ x y, f x = .ok y → g x = k y) {xs : List α} {ys : List β} (hys : xs.mapM f = .ok ys) :
    xs.map g = ys.map k := by
  induction xs generalizing ys with
  | nil =>
      obtain rfl := Except.ok.inj hys
      rfl
  | cons x xs ih =>
      rw [List.mapM_cons, bind_eq_ok] at hys
      obtain ⟨y, hy, hmore⟩ := hys
      obtain ⟨rest, hrest, hall⟩ := bind_eq_ok.1 hmore
      obtain rfl : y :: rest = ys := Except.ok.inj hall
      rw [List.map_cons, List.map_cons, h x y hy, ih hrest]

/-- What is done to a list depends on what is done to its items only. -/
theorem mapM_congr {f g : α → Except ε β} {xs : List α} (h : ∀ x ∈ xs, f x = g x) :
    xs.mapM f = xs.mapM g := by
  induction xs with
  | nil => rfl
  | cons x xs ih =>
      obtain ⟨hx, hrest⟩ := List.forall_mem_cons.1 h
      rw [List.mapM_cons, List.mapM_cons, hx, ih hrest]

/-- What succeeds for the items in two ways, in one of them only with results of a property,
succeeds so for the list. -/
theorem mapM_eq_ok_iff_and {f g : α → Except ε β} {P : β → Prop} {xs : List α} {ys : List β}
    (h : ∀ x ∈ xs, ∀ y, f x = .ok y ↔ g x = .ok y ∧ P y) :
    xs.mapM f = .ok ys ↔ xs.mapM g = .ok ys ∧ ∀ y ∈ ys, P y := by
  induction xs generalizing ys with
  | nil =>
      refine ⟨fun hys => ⟨hys, ?_⟩, And.left⟩
      obtain rfl := Except.ok.inj hys
      exact fun _ hy => nomatch hy
  | cons x xs ih =>
      obtain ⟨hx, hrest⟩ := List.forall_mem_cons.1 h
      rw [List.mapM_cons, List.mapM_cons]
      simp only [bind_eq_ok, hx, ih hrest]
      constructor
      · rintro ⟨y, ⟨hy, hP⟩, rest, ⟨hrest, hall⟩, hys⟩
        obtain rfl := Except.ok.inj hys
        exact ⟨⟨y, hy, rest, hrest, rfl⟩, List.forall_mem_cons.2 ⟨hP, hall⟩⟩
      · rintro ⟨⟨y, hy, rest, hrest, hys⟩, hall⟩
        obtain rfl := Except.ok.inj hys
        obtain ⟨hP, hall⟩ := List.forall_mem_cons.1 hall
        exact ⟨y, ⟨hy, hP⟩, rest, ⟨hrest, hall⟩, rfl⟩

/-- What every result that an item can have has, all results have. -/
theorem forall_of_mapM_eq_ok {f : α → Except ε β} {P : β → Prop} {xs : List α} {ys : List β}
    (h : ∀ x ∈ xs, ∀ y, f x = .ok y → P y) (hys : xs.mapM f = .ok ys) :
    ∀ y ∈ ys, P y := by
  have hboth : ∀ x ∈ xs, ∀ y, f x = .ok y ↔ f x = .ok y ∧ P y :=
    fun x hx y => ⟨fun hy => ⟨hy, h x hx y hy⟩, And.left⟩
  exact ((mapM_eq_ok_iff_and hboth).1 hys).2

/-- What is undone for every item is undone for all of them. -/
theorem mapM_map_eq_ok {f : α → Except ε β} {g : β → α} {xs : List β}
    (h : ∀ x ∈ xs, f (g x) = .ok x) : (xs.map g).mapM f = .ok xs := by
  have hpure : ∀ x ∈ xs, (f ∘ g) x = pure (id x) := h
  rw [List.mapM_map, mapM_congr hpure, List.mapM_pure, List.map_id]
  rfl

/-! ## Results that are changed on the way -/

theorem bind_of_ok (a : α) (f : α → Except ε β) : (Except.ok a >>= f) = f a := rfl

theorem map_after_bind {γ : Type} (x : Except ε α) (f : α → Except ε β) (g : β → γ) :
    (x >>= f).map g = x >>= fun a => (f a).map g := by
  cases x <;> rfl

theorem bind_after_map {γ : Type} (x : Except ε α) (g : α → β) (f : β → Except ε γ) :
    x.map g >>= f = x >>= fun a => f (g a) := by
  cases x <;> rfl

theorem map_after_pure (g : α → β) (a : α) : (pure a : Except ε α).map g = pure (g a) := rfl

/-- What changes the result for every item changes the list of results. -/
theorem mapM_map_result {γ : Type} (f : α → Except ε β) (g : β → γ) (xs : List α) :
    xs.mapM (fun x => (f x).map g) = (xs.mapM f).map (List.map g) := by
  induction xs with
  | nil => rfl
  | cons x xs ih =>
      simp only [List.mapM_cons, ih, bind_after_map, map_after_bind, map_after_pure, List.map_cons]

/-! ## Obstacles -/

/-- The computation, unless a failure stands in its way. -/
def blocked (obstacle : Option ε) (x : Except ε α) : Except ε α :=
  match obstacle with
  | some e => .error e
  | none => x

@[simp] theorem blocked_none (x : Except ε α) : blocked none x = x := rfl

@[simp] theorem blocked_some (e : ε) (x : Except ε α) : blocked (some e) x = .error e := rfl

theorem map_blocked (obstacle : Option ε) (x : Except ε α) (f : α → β) :
    (blocked obstacle x).map f = blocked obstacle (x.map f) := by
  cases obstacle <;> rfl

/-- Of the obstacles in the way of several items the first decides, if nothing else fails. -/
theorem mapM_blocked {f g : α → Except ε β} {obstacle : α → Option ε} {xs : List α}
    (hf : ∀ x ∈ xs, f x = blocked (obstacle x) (g x)) (hg : ∀ x ∈ xs, ∃ y, g x = .ok y) :
    xs.mapM f = blocked (xs.findSome? obstacle) (xs.mapM g) := by
  induction xs with
  | nil => rfl
  | cons x xs ih =>
      obtain ⟨hx, hrest⟩ := List.forall_mem_cons.1 hf
      obtain ⟨⟨y, hy⟩, hothers⟩ := List.forall_mem_cons.1 hg
      obtain ⟨ys, hys⟩ := exists_mapM_eq_ok hothers
      rw [List.mapM_cons, List.mapM_cons, hx, ih hrest hothers, hy, hys, List.findSome?_cons]
      cases obstacle x with
      | some e => rfl
      | none => cases xs.findSome? obstacle <;> rfl

/-! ## Failure -/

/-- Whatever the computation fails with has the property. -/
def OnlyFails (P : ε → Prop) (x : Except ε α) : Prop := ∀ e, x = .error e → P e

namespace OnlyFails

variable {P : ε → Prop}

theorem ok (a : α) : OnlyFails P (.ok a) := fun _ h => nomatch h

theorem error {e : ε} (h : P e) : OnlyFails P (.error e : Except ε α) := by
  intro e' he
  cases he
  exact h

theorem bind {x : Except ε α} {f : α → Except ε β} (hx : OnlyFails P x)
    (hf : ∀ a, OnlyFails P (f a)) : OnlyFails P (x >>= f) := by
  cases x with
  | error e => exact fun e' he => hx e' (by simpa [Bind.bind, Except.bind] using he)
  | ok a => exact hf a

theorem map {x : Except ε α} {f : α → β} (hx : OnlyFails P x) : OnlyFails P (x.map f) := by
  cases x with
  | error e => exact fun e' he => hx e' (by simpa [Except.map] using he)
  | ok a => exact ok (f a)

theorem mapM {f : α → Except ε β} (xs : List α) (hf : ∀ x, OnlyFails P (f x)) :
    OnlyFails P (xs.mapM f) := by
  induction xs with
  | nil => exact ok []
  | cons x xs ih =>
      rw [List.mapM_cons]
      exact (hf x).bind fun y => ih.bind fun ys => ok (y :: ys)

end OnlyFails

/-! ## Results -/

/-- Whatever the computation gives has the property. -/
def OnlyGives (P : α → Prop) (x : Except ε α) : Prop := ∀ a, x = .ok a → P a

namespace OnlyGives

theorem ok {P : α → Prop} {a : α} (h : P a) : OnlyGives P (.ok a : Except ε α) := by
  intro b hb
  obtain rfl := Except.ok.inj hb
  exact h

theorem error {P : α → Prop} (e : ε) : OnlyGives P (.error e : Except ε α) := fun _ h => nomatch h

theorem bind {P : β → Prop} {x : Except ε α} {f : α → Except ε β}
    (hf : ∀ a, x = .ok a → OnlyGives P (f a)) : OnlyGives P (x >>= f) := by
  intro b hb
  obtain ⟨a, ha, hfa⟩ := bind_eq_ok.1 hb
  exact hf a ha b hfa

theorem map {P : β → Prop} {x : Except ε α} {f : α → β} (hf : ∀ a, P (f a)) :
    OnlyGives P (x.map f) := by
  intro b hb
  obtain ⟨a, -, rfl⟩ := map_eq_ok.1 hb
  exact hf a

end OnlyGives

end Planwright.Fallible
