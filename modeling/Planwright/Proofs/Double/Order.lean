set_option autoImplicit false

/-!
# Comparing doubles

Two doubles can be compared unless one of them is "not a number", and comparing them the other way
round gives the opposite answer.  So where one is not at least another, it is below it or there is
nothing to compare (`not_le_iff`).
-/

namespace Planwright.Double

open Float.Model Float.Model.UnpackedFloat

theorem isNone_compare (x y : UnpackedFloat) : (x.compare y).isNone = (x.isNaN || y.isNaN) := by
  cases x with
  | notANumber => cases y <;> rfl
  | infinity s => cases s <;> cases y <;> rfl
  | zero s =>
      cases y with
      | infinity t => cases t <;> rfl
      | finite t => cases t <;> rfl
      | _ => rfl
  | finite s =>
      cases y with
      | infinity t => cases t <;> rfl
      | finite t => cases s <;> cases t <;> rfl
      | _ => cases s <;> rfl

theorem compare_eq_none_iff (x y : UnpackedFloat) :
    x.compare y = none ↔ x.isNaN = true ∨ y.isNaN = true := by
  rw [← Option.isNone_iff_eq_none, isNone_compare, Bool.or_eq_true]

theorem then_compare_swap (e₁ e₂ : Int) (m₁ m₂ : Nat) :
    (compare e₂ e₁).then (compare m₂ m₁) = ((compare e₁ e₂).then (compare m₁ m₂)).swap := by
  rw [Ordering.swap_then, ← Std.OrientedCmp.eq_swap, ← Std.OrientedCmp.eq_swap]

theorem compare_swap (x y : UnpackedFloat) : y.compare x = (x.compare y).map Ordering.swap := by
  have hsign (s t : Sign) : compare t s = (compare s t).swap := by
    cases s <;> cases t <;> rfl
  cases x with
  | notANumber => cases y <;> rfl
  | infinity s =>
      cases y with
      | infinity t => exact congrArg some (hsign s t)
      | finite t => cases s <;> cases t <;> rfl
      | _ => cases s <;> rfl
  | zero s =>
      cases y with
      | infinity t => cases t <;> rfl
      | finite t => cases t <;> rfl
      | _ => rfl
  | finite s m e =>
      cases y with
      | notANumber => rfl
      | infinity t => cases s <;> cases t <;> rfl
      | zero t => cases s <;> rfl
      | finite t n d =>
          cases s <;> cases t
          · exact congrArg some (congrArg Ordering.swap (then_compare_swap e d m n))
          · rfl
          · rfl
          · exact congrArg some (then_compare_swap e d m n)

/-! ## On doubles themselves -/

theorem le_iff (x y : Float) :
    x ≤ y ↔ (x.toModel.unpack.compare y.toModel.unpack).any (·.isLE) = true :=
  decide_eq_true_iff

theorem lt_iff (x y : Float) :
    x < y ↔ x.toModel.unpack.compare y.toModel.unpack = some .lt :=
  decide_eq_true_iff.trans beq_iff_eq

/-- How doubles compare is a matter of what they are unpacked to. -/
theorem lt_congr {x x' y y' : Float} (hx : x.toModel.unpack = x'.toModel.unpack)
    (hy : y.toModel.unpack = y'.toModel.unpack) : x < y ↔ x' < y' := by
  rw [lt_iff, lt_iff, hx, hy]

/-- What is not at least as large is smaller, or cannot be compared. -/
theorem not_le_iff (x y : Float) : ¬ x ≤ y ↔ y < x ∨ x.isNaN = true ∨ y.isNaN = true := by
  have hnan : x.isNaN = true ∨ y.isNaN = true
      ↔ x.toModel.unpack.compare y.toModel.unpack = none :=
    (compare_eq_none_iff _ _).symm
  rw [le_iff, lt_iff, hnan, compare_swap x.toModel.unpack]
  cases x.toModel.unpack.compare y.toModel.unpack with
  | none => simp
  | some o => cases o <;> simp

end Planwright.Double
