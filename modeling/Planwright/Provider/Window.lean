set_option autoImplicit false

/-!
# Request windows

How many requests a provider got lately.  Only the latest instants are kept, as many as the
budget allows: when one more is recorded the oldest is dropped.
-/

namespace Planwright

/-- The instants of the latest requests, the oldest first. -/
structure RequestWindow where
  capacity : Nat
  lengthMs : Nat
  stamps : List Nat
  deriving DecidableEq, Repr, Inhabited

namespace RequestWindow

/-- A window without requests.  It has room for at least one. -/
def new (capacity lengthMs : Nat) : RequestWindow := ⟨max capacity 1, lengthMs, []⟩

/-- How many of some instants lie in the window that ends at an instant.  An instant that is
still to come counts as the present one. -/
def countWithin (lengthMs now : Nat) (stamps : List Nat) : Nat :=
  (stamps.filter fun t => now - t < lengthMs).length

/-- How many of the recorded requests lie in the window that ends at an instant. -/
def inWindow (w : RequestWindow) (now : Nat) : Nat := countWithin w.lengthMs now w.stamps

/-- Whether the budget has room for one more request. -/
def hasCapacity (w : RequestWindow) (now : Nat) : Bool := w.inWindow now < w.capacity

/-- Records a request. -/
def record (w : RequestWindow) (now : Nat) : RequestWindow :=
  let kept := if w.stamps.length = w.capacity then w.stamps.drop 1 else w.stamps
  { w with stamps := kept ++ [now] }

/-- How many instants are kept. -/
def size (w : RequestWindow) : Nat := w.stamps.length

@[simp] theorem capacity_record (w : RequestWindow) (now : Nat) :
    (w.record now).capacity = w.capacity := rfl

@[simp] theorem lengthMs_record (w : RequestWindow) (now : Nat) :
    (w.record now).lengthMs = w.lengthMs := rfl

end RequestWindow

end Planwright
