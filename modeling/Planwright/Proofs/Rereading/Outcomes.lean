import Planwright.Proofs.Handling
import Planwright.Proofs.Provider.Building
import Planwright.Proofs.Value.Written
import Planwright.Scripted

set_option autoImplicit false

/-!
# Outcomes that are written and read again

An outcome is handed on as a value.  What is absent is left out, and everything that is written is
read again as it was, with one exception: a result that is null is written, but null is read as no
result.  So an outcome survives exactly if its result is not null (`outcome_survives_iff`).
-/

namespace Planwright

open Fallible

namespace FailureInfo

/-- What is known about a failure is read as it was written. -/
theorem ofValue_toValue (i : FailureInfo) : ofValue i.toValue = .ok i := by
  let written : Dict Value := [("kind", .text i.kind.name), ("severity", .text i.severity.name),
    ("retryable", .bool i.retryable), ("disposition", .text i.disposition.name)]
  have hkeys : written.keys.Nodup :=
    (by decide : ["kind", "severity", "retryable", "disposition"].Nodup)
  have hkind : written.field? "kind" (Shape.choice FailureKind.names) = .ok (some i.kind) :=
    Dict.field?_of_written _ rfl (by cases i.kind <;> rfl)
  have hseverity :
      written.field? "severity" (Shape.choice Severity.names) = .ok (some i.severity) :=
    Dict.field?_of_written _ rfl (by cases i.severity <;> rfl)
  have hdisposition :
      written.field? "disposition" (Shape.choice Disposition.names) = .ok (some i.disposition) :=
    Dict.field?_of_written _ rfl (by cases i.disposition <;> rfl)
  have hvalue : i.toValue = .object (Dict.ofEntries written) := rfl
  rw [hvalue, ofValue]
  simp only [Shape.record_object, bind_of_ok, Dict.field?_ofEntries hkeys, hkind, hseverity,
    hdisposition]
  rfl

theorem nullable_toValue (i : FailureInfo) : Shape.nullable ofValue i.toValue = .ok (some i) := by
  have hnullable : Shape.nullable ofValue i.toValue = (ofValue i.toValue).map some := rfl
  rw [hnullable, i.ofValue_toValue]
  rfl

end FailureInfo

namespace Elapsed

/-- A time that can be reported. -/
def Reportable (e : Elapsed) : Prop := e.millis ≤ limit

theorem reportable_ofMillis (n : Nat) : (ofMillis n).Reportable := Nat.min_le_right n limit

theorem Reportable.ofValue_toValue {e : Elapsed} (h : e.Reportable) :
    ofValue e.toValue = .ok e := by
  have hbound : (0 : Int) ≤ e.millis ∧ (e.millis : Int) < ((1 <<< 64 : Nat) : Int) := by
    unfold Reportable limit at h
    omega
  have hread : Shape.natural 64 e.toValue = .ok e.millis := by
    rw [toValue, Value.ofNat, Shape.natural, if_pos hbound, Int.toNat_natCast]
  rw [ofValue, hread]
  rfl

theorem Reportable.nullable_toValue {e : Elapsed} (h : e.Reportable) :
    Shape.nullable ofValue e.toValue = .ok (some e) := by
  have hnullable : Shape.nullable ofValue e.toValue = (ofValue e.toValue).map some := rfl
  rw [hnullable, h.ofValue_toValue]
  rfl

end Elapsed

namespace Outcome

/-- The outcome without a result that is null. -/
def kept (o : Outcome) : Outcome := { o with data := o.data.filter fun v => !v.isNull }

theorem kept_eq_self_iff {o : Outcome} : o.kept = o ↔ o.data ≠ some .null := by
  obtain ⟨success, data, message, source, executionTime, executionId, escalate, error⟩ := o
  cases data with
  | none => simp [kept]
  | some v => cases v <;> simp [kept, Value.isNull]

/-- The members of a written outcome. -/
def written (o : Outcome) : Dict Value :=
  [("success", .bool o.success), ("source", .text o.source), ("escalate", .bool o.escalate)]
    ++ Value.optional "data" id o.data ++ Value.optional "message" .text o.message
    ++ Value.optional "executionTimeMs" Elapsed.toValue o.executionTime
    ++ Value.optional "executionId" .text o.executionId
    ++ Value.optional "error" FailureInfo.toValue o.error

theorem nodup_keys_written (o : Outcome) : o.written.keys.Nodup := by
  have hnames : ["success", "source", "escalate", "data", "message", "executionTimeMs",
      "executionId", "error"].Nodup := by decide
  refine hnames.sublist ?_
  have hopen : Dict.keys [("success", Value.bool o.success), ("source", .text o.source),
      ("escalate", .bool o.escalate)] = ["success", "source", "escalate"] := rfl
  simp only [written, Dict.keys_append, hopen]
  exact ((((List.Sublist.refl _).append (Dict.keys_optional_sublist ..)).append
    (Dict.keys_optional_sublist ..)).append (Dict.keys_optional_sublist ..)).append
    (Dict.keys_optional_sublist ..) |>.append (Dict.keys_optional_sublist ..)

/-- What is found in a written outcome. -/
theorem get?_written (o : Outcome) :
    o.written.get? "success" = some (.bool o.success) ∧
    o.written.get? "source" = some (.text o.source) ∧
    o.written.get? "escalate" = some (.bool o.escalate) ∧
    o.written.get? "data" = o.data.map id ∧
    o.written.get? "message" = o.message.map .text ∧
    o.written.get? "executionTimeMs" = o.executionTime.map Elapsed.toValue ∧
    o.written.get? "executionId" = o.executionId.map .text ∧
    o.written.get? "error" = o.error.map FailureInfo.toValue := by
  simp [written, Dict.get?_append, Dict.get?_cons, Dict.get?_optional]

/-- Null is read as no result, every other result as it is. -/
theorem nullable?_data (o : Outcome) :
    o.written.nullable? "data" Shape.any = .ok (o.data.filter fun v => !v.isNull) := by
  have hget := o.get?_written.2.2.2.1
  cases hdata : o.data with
  | none =>
      rw [hdata] at hget
      rw [Dict.nullable?, Dict.field?_of_get?_eq_none hget]
      rfl
  | some v =>
      rw [hdata] at hget
      rw [Dict.nullable?, Dict.field?_of_get?_eq_some hget]
      cases v <;> rfl

/-- Reading what was written gives the outcome, but for a result that is null. -/
theorem ofValue_toValue {o : Outcome} (h : ∀ t, o.executionTime = some t → t.Reportable) :
    ofValue o.toValue = .ok o.kept := by
  obtain ⟨hsuccess, hsource, hescalate, -, hmessage, htime, hid, herror⟩ := o.get?_written
  have hkeys := o.nodup_keys_written
  have hvalue : o.toValue = .object (Dict.ofEntries o.written) := rfl
  rw [hvalue, ofValue]
  simp only [Shape.record_object, bind_of_ok, Dict.field?_ofEntries hkeys,
    Dict.nullable?_ofEntries hkeys, o.nullable?_data,
    Dict.nullable?_of_written _ herror fun i _ => i.nullable_toValue,
    Dict.field?_of_written Shape.bool hescalate rfl,
    Dict.nullable?_of_written Shape.text hid fun _ _ => rfl,
    Dict.nullable?_of_written _ htime fun t ht => (h t ht).nullable_toValue,
    Dict.nullable?_of_written Shape.text hmessage fun _ _ => rfl,
    Dict.field?_of_written Shape.text hsource rfl, Dict.field?_of_written Shape.bool hsuccess rfl]
  rfl

/-- A result can be told from no result by what is written. -/
theorem toValue_kept_eq_iff {o : Outcome} : o.kept.toValue = o.toValue ↔ o.data ≠ some .null := by
  refine ⟨fun h hnull => ?_, fun h => by rw [kept_eq_self_iff.2 h]⟩
  have hdicts : Dict.ofEntries o.kept.written = Dict.ofEntries o.written := Value.object.inj h
  have hget :
      (Dict.ofEntries o.kept.written).get? "data" = (Dict.ofEntries o.written).get? "data" :=
    congrArg (Dict.get? · "data") hdicts
  rw [Dict.get?_ofEntries o.kept.nodup_keys_written, Dict.get?_ofEntries o.nodup_keys_written,
    o.kept.get?_written.2.2.2.1, o.get?_written.2.2.2.1, kept, hnull] at hget
  cases hget

end Outcome

namespace Engine

/-- The times in the outcomes of requests can be reported. -/
theorem reportable_handle (e : Engine) (network : Network) (cancelAfter : Option Nat)
    (id query : String) (i : Intent) {t : Elapsed}
    (h : (e.handle network cancelAfter id query i).1.executionTime = some t) : t.Reportable := by
  by_cases hadmits : e.config.planner.admits (e.synthesize query i).recipe = true
  · rw [e.handle_of_admits network cancelAfter id query i hadmits] at h
    generalize (e.execute network cancelAfter (e.synthesize query i).recipe).1 = x at h
    have htime : (outcomeOf (e.synthesize query i).source id x).executionTime = some x.elapsed := by
      unfold outcomeOf
      dsimp only
      split <;> rfl
    rw [htime] at h
    exact Option.some.inj h ▸ Elapsed.reportable_ofMillis _
  · rw [e.handle_of_not_admits network cancelAfter id query i hadmits] at h
    cases h

/-- **Outcomes that are written.**  Whatever a request ends with, its outcome is read again as it
was written exactly if its result is not null, and then it is written the same once more.  An
outcome whose result is null is read as one without a result; nothing else is lost. -/
theorem outcome_survives_iff (e : Engine) (network : Network) (cancelAfter : Option Nat)
    (id query : String) (i : Intent) :
    let o := (e.handle network cancelAfter id query i).1
    (Outcome.ofValue o.toValue = .ok o ↔ o.data ≠ some .null) ∧
    ((Outcome.ofValue o.toValue).map Outcome.toValue = .ok o.toValue ↔ o.data ≠ some .null) ∧
    (o.data = some .null → Outcome.ofValue o.toValue = .ok { o with data := none }) := by
  intro o
  have hread : Outcome.ofValue o.toValue = .ok o.kept :=
    Outcome.ofValue_toValue fun _ ht => e.reportable_handle network cancelAfter id query i ht
  rw [hread]
  refine ⟨?_, ?_, fun hnull => ?_⟩
  · rw [Except.ok.injEq, Outcome.kept_eq_self_iff]
  · rw [Except.map, Except.ok.injEq, Outcome.toValue_kept_eq_iff]
  · rw [Outcome.kept, hnull]
    rfl

/-- The result of a recipe without steps is null: the outcome that is read again has no result. -/
theorem null_result_lost :
    let plans : PlanTable := PlanTable.empty.insert "d" "a" ⟨⟨1, [], []⟩, []⟩
    let o := ((Engine.new .standard plans).handle (Route.network []) none "id" "q"
      ⟨"d", "a", .none, 1⟩).1
    o.success = true ∧ o.data = some .null ∧
      Outcome.ofValue o.toValue = .ok { o with data := none } := by
  intro plans o
  have hnull : o.data.map Value.isNull = some true := by decide +kernel
  obtain ⟨v, hdata, hv⟩ := Option.map_eq_some_iff.1 hnull
  obtain rfl := Value.isNull_eq_true_iff.1 hv
  refine ⟨by decide +kernel, hdata, ?_⟩
  rw [Outcome.ofValue_toValue fun _ ht => reportable_handle _ _ _ _ _ _ ht, Outcome.kept, hdata]
  rfl

end Engine

end Planwright
