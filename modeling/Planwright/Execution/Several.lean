import Planwright.Execution.Call

set_option autoImplicit false

/-!
# Several calls in one step

Calls in parallel are all prepared before the first is sent, are sent in their order at the same
instant, and land each in its own time; the step ends when the last has landed.  Calls in a batch
go to one provider, each after the one before has ended, whatever became of it.

Either step fails only if there are calls and all of them fail.
-/

namespace Planwright

/-- The members of a result and of a failure, apart and in order. -/
def outcomesOf (slots : List (Except Failure Value)) : List Value × List Failure :=
  (slots.filterMap Except.toOption,
    slots.filterMap fun r => match r with
      | .ok _ => none
      | .error f => some f)

/-! ## In parallel -/

/-- A call of several, sent or refused. -/
abbrev Slot : Type := Except Failure (Flight × PreparedCall)

namespace Slot

/-- The flight of a call that was sent. -/
def flight? : Slot → Option Flight
  | .ok (f, _) => some f
  | .error _ => none

/-- What became of a call once it has landed. -/
def result : Slot → Except Failure Value
  | .error f => .error f
  | .ok (f, p) => f.answer.bind p.finish

end Slot

namespace Surroundings

/-- Sends prepared calls in their order at the same instant. -/
def launchAll (s : Surroundings) : World → List (Except Failure PreparedCall) → List Slot × World
  | w, [] => ([], w)
  | w, .error f :: rest =>
    let (slots, w) := s.launchAll w rest
    (.error f :: slots, w)
  | w, .ok p :: rest =>
    let (sent, w) := w.launch s.network p.entry p.spec s.config.callTimeoutMs
    let (slots, w) := s.launchAll w rest
    (sent.map (fun f => (f, p)) :: slots, w)

/-- The instant at which the last flight lands. -/
def lastLanding (now : Nat) (flights : List Flight) : Nat :=
  flights.foldl (fun latest f => max latest f.landsAt) now

/-- The result of calls in parallel. -/
def parallelResult (slots : List (Except Failure Value)) : Except Failure Value :=
  let (successful, failures) := outcomesOf slots
  if !slots.isEmpty && successful.isEmpty then .error (.allFailed failures)
  else
    .ok (.ofMembers [("successful", .list successful), ("failed", .ofNat failures.length),
      ("total", .ofNat slots.length)])

/-- Makes calls in parallel. -/
def callParallel (s : Surroundings) (ctx : Context) (w : World) (calls : List ApiCall) :
    Ended Value × World :=
  let (slots, w) := s.launchAll w (calls.map fun c => c.prepare s.config.unresolved ctx w)
  let flights := slots.filterMap Slot.flight?
  let finish := lastLanding w.now flights
  if s.cutsBefore finish then
    (.error .interrupted,
      s.interrupt ((flights.filter fun f => !s.cutsBefore f.landsAt).foldl World.land w))
  else (.of (parallelResult (slots.map Slot.result)), (flights.foldl World.land w).at_ finish)

/-! ## In a batch -/

/-- The entry of one call in the result of a batch. -/
def batchEntry : Except Failure Value → Value
  | .ok v => .ofMembers [("success", .bool true), ("data", v)]
  | .error f => .ofMembers [("success", .bool false), ("error", .text f.message)]

/-- The result of calls in a batch. -/
def batchResult (slots : List (Except Failure Value)) : Except Failure Value :=
  let (successful, failures) := outcomesOf slots
  if !slots.isEmpty && successful.isEmpty then .error (.allFailed failures)
  else .ok (.list (slots.map batchEntry))

/-- Makes calls to one provider, one after the other. -/
def batchFrom (s : Surroundings) (ctx : Context) (provider : String) :
    World → List ApiCall → Ended (List (Except Failure Value)) × World
  | w, [] => (.ok [], w)
  | w, c :: rest =>
    match s.callOne ctx w (c.withProvider provider) with
    | (.error .interrupted, w) => (.error .interrupted, w)
    | (.error (.failed f), w) =>
      let (slots, w) := s.batchFrom ctx provider w rest
      (slots.map (.error f :: ·), w)
    | (.ok (v, _), w) =>
      let (slots, w) := s.batchFrom ctx provider w rest
      (slots.map (.ok v :: ·), w)

/-- Makes calls in a batch. -/
def callBatch (s : Surroundings) (ctx : Context) (w : World) (provider : String)
    (calls : List ApiCall) : Ended Value × World :=
  match s.batchFrom ctx provider w calls with
  | (.error stop, w) => (.error stop, w)
  | (.ok slots, w) => (.of (batchResult slots), w)

end Surroundings

end Planwright
