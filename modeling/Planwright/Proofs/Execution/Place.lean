import Planwright.Execution.Run

set_option autoImplicit false

/-!
# Places and their texts

A trace names each step by the text of its place.  The text has an index or the word for a branch
between any two slashes, and no slash in either, so it says where the step stands: different places
have different texts (`text_injective`), and a text that goes on behind a conditional and the word
for a branch is that of a place in this branch (`inside_prefix_of_opening_prefix`).
-/

namespace Planwright.Place

/-! ## Words between slashes -/

theorem slash_notMem_index (i : Nat) : '/' ∉ (toString i).toList := by
  rw [Nat.toString_eq_ofList_toDigits, String.toList_ofList]
  intro hmem
  have hdigit : Char.isDigit '/' = true := Nat.isDigit_of_mem_toDigits (by omega) (by omega) hmem
  exact absurd hdigit (by decide)

theorem slash_notMem_branchName (b : Bool) : '/' ∉ (branchName b).toList := by
  cases b <;> decide

theorem index_inj {i j : Nat} (h : (toString i).toList = (toString j).toList) : i = j := by
  have hvalue := congrArg (fun digits => Nat.ofDigitChars 10 digits 0) h
  simpa [Nat.toString_eq_ofList_toDigits] using hvalue

theorem branchName_inj {b d : Bool} (h : (branchName b).toList = (branchName d).toList) :
    b = d := by
  cases b <;> cases d <;> first | rfl | exact absurd h (by decide)

/-- The text of a conditional and of one of its branches, with what stands behind it. -/
def entering (i : Nat) (b : Bool) (rest : List Char) : List Char :=
  (toString i).toList ++ '/' :: ((branchName b).toList ++ '/' :: rest)

theorem entering_inj {i j : Nat} {b d : Bool} {rest more : List Char}
    (h : entering i b rest = entering j d more) : i = j ∧ b = d ∧ rest = more := by
  obtain ⟨hindex, htail⟩ := Text.append_cons_inj (slash_notMem_index i) (slash_notMem_index j) h
  obtain ⟨hbranch, hrest⟩ :=
    Text.append_cons_inj (slash_notMem_branchName b) (slash_notMem_branchName d) htail
  exact ⟨index_inj hindex, branchName_inj hbranch, hrest⟩

theorem entering_append (i : Nat) (b : Bool) (rest more : List Char) :
    entering i b rest ++ more = entering i b (rest ++ more) := by
  simp [entering]

/-- An index has no slash behind it. -/
theorem entering_ne_index (i j : Nat) (b : Bool) (rest : List Char) :
    entering i b rest ≠ (toString j).toList := by
  intro h
  have hslash : '/' ∈ entering i b rest := by simp [entering]
  exact slash_notMem_index j (h ▸ hslash)

/-! ## Texts of places -/

theorem toList_text_cons (i : Nat) (b : Bool) (around : List (Nat × Bool)) (index : Nat) :
    (text ⟨(i, b) :: around, index⟩).toList = entering i b (text ⟨around, index⟩).toList := by
  have htext : text ⟨(i, b) :: around, index⟩
      = toString i ++ "/" ++ branchName b ++ "/" ++ text ⟨around, index⟩ := rfl
  rw [htext]
  simp [entering, String.toList_append]

/-- Different places have different texts. -/
theorem text_injective : Function.Injective text := by
  rintro ⟨around, i⟩ ⟨other, j⟩ h
  replace h : (text ⟨around, i⟩).toList = (text ⟨other, j⟩).toList := congrArg String.toList h
  induction around generalizing other with
  | nil =>
      cases other with
      | nil => exact congrArg (Place.mk []) (index_inj h)
      | cons c other =>
          rw [toList_text_cons] at h
          exact absurd h.symm (entering_ne_index _ _ _ _)
  | cons c around ih =>
      rw [toList_text_cons] at h
      cases other with
      | nil => exact absurd h (entering_ne_index _ _ _ _)
      | cons d other =>
          rw [toList_text_cons] at h
          obtain ⟨hindex, hbranch, hrest⟩ := entering_inj h
          obtain ⟨rfl, rfl⟩ := Place.mk.inj (ih other hrest)
          rw [show c = d from Prod.ext hindex hbranch]

/-! ## Branches -/

/-- A place is in one branch of one conditional at each depth. -/
theorem inside_inj {c d : Place} {b e : Bool} {around : List (Nat × Bool)}
    (hc : c.inside b <+: around) (hd : d.inside e <+: around)
    (hdepth : c.around.length = d.around.length) : c = d ∧ b = e := by
  have hlength : (c.inside b).length = (d.inside e).length := by simp [inside, hdepth]
  have hinside : c.inside b = d.inside e :=
    (List.prefix_of_prefix_length_le hc hd (Nat.le_of_eq hlength)).eq_of_length hlength
  obtain ⟨haround, hlast⟩ := List.append_inj hinside hdepth
  obtain ⟨hindex, hbranch⟩ := Prod.mk.inj (List.cons.inj hlast).1
  exact ⟨by cases c; cases d; simp_all, hbranch⟩

theorem not_inside_prefix_around (c : Place) (b : Bool) : ¬ c.inside b <+: c.around := by
  intro h
  have hlength := h.length_le
  rw [inside, List.length_append, List.length_singleton] at hlength
  omega

/-- The place is that of a step, or stands in a branch of this step. -/
def Covers (c p : Place) : Prop := p = c ∨ ∃ b, c.inside b <+: p.around

theorem Covers.around_prefix {c p : Place} (h : c.Covers p) : c.around <+: p.around := by
  rcases h with rfl | ⟨b, h⟩
  · exact List.prefix_refl _
  · exact (List.prefix_append _ _).trans h

/-- Of the steps in one list only one covers a place. -/
theorem Covers.index_inj {around : List (Nat × Bool)} {i j : Nat} {p : Place}
    (hi : Covers ⟨around, i⟩ p) (hj : Covers ⟨around, j⟩ p) : i = j := by
  rcases hi with rfl | ⟨b, hi⟩
  · rcases hj with h | ⟨d, hj⟩
    · exact congrArg Place.index h
    · exact absurd hj (not_inside_prefix_around ⟨around, j⟩ d)
  · rcases hj with rfl | ⟨d, hj⟩
    · exact absurd hi (not_inside_prefix_around ⟨around, i⟩ b)
    · exact congrArg Place.index (inside_inj hi hj rfl).1

/-- The conditionals around a place, the outermost first; `before` stands around all of them. -/
def enclosing (before : List (Nat × Bool)) : List (Nat × Bool) → List Place
  | [] => []
  | (i, b) :: rest => ⟨before, i⟩ :: enclosing (before ++ [(i, b)]) rest

/-- The conditionals around a place, the outermost first, and the place itself. -/
def lineage (p : Place) : List Place := enclosing [] p.around ++ [p]

/-- What the texts of all places in a branch of the step at this place begin with. -/
def opening (c : Place) (b : Bool) : String := c.text ++ "/" ++ branchName b ++ "/"

theorem toList_opening_nil (i : Nat) (b : Bool) :
    (opening ⟨[], i⟩ b).toList = entering i b [] := by
  have hopening : opening ⟨[], i⟩ b = toString i ++ "/" ++ branchName b ++ "/" := rfl
  rw [hopening]
  simp [entering, String.toList_append]

theorem toList_opening_cons (i : Nat) (d : Bool) (around : List (Nat × Bool)) (index : Nat)
    (b : Bool) :
    (opening ⟨(i, d) :: around, index⟩ b).toList
      = entering i d (opening ⟨around, index⟩ b).toList := by
  have hlist (c : Place) :
      (opening c b).toList = c.text.toList ++ '/' :: ((branchName b).toList ++ ['/']) := by
    simp [opening, String.toList_append]
  rw [hlist, hlist, toList_text_cons, entering_append]

/-- A place whose text goes on behind a conditional and one of its branches is in this branch. -/
theorem inside_prefix_of_opening_prefix {c p : Place} {b : Bool}
    (h : (c.opening b).toList <+: p.text.toList) : c.inside b <+: p.around := by
  obtain ⟨around, i⟩ := c
  obtain ⟨other, j⟩ := p
  obtain ⟨behind, h⟩ := h
  induction around generalizing other with
  | nil =>
      rw [toList_opening_nil, entering_append] at h
      cases other with
      | nil => exact absurd h (entering_ne_index _ _ _ _)
      | cons d other =>
          rw [toList_text_cons] at h
          obtain ⟨hindex, hbranch, -⟩ := entering_inj h
          exact ⟨other, by rw [show d = (i, b) from Prod.ext hindex.symm hbranch.symm]; rfl⟩
  | cons c around ih =>
      rw [toList_opening_cons, entering_append] at h
      cases other with
      | nil => exact absurd h (entering_ne_index _ _ _ _)
      | cons d other =>
          rw [toList_text_cons] at h
          obtain ⟨hindex, hbranch, hrest⟩ := entering_inj h
          obtain rfl : c = d := Prod.ext hindex hbranch
          exact List.cons_prefix_cons.2 ⟨rfl, ih other hrest⟩

end Planwright.Place
