import Planwright.Expr.Eval
import Planwright.Proofs.Fallible

set_option autoImplicit false

/-!
# What an expression reads

An expression that has a value has read a finite number for each of its variables, those included on
which the value does not depend.  Once an expression is read, whatever is wrong with it is reported
as wrong parameters (`heeds_eval`).
-/

namespace Planwright

open Fallible

/-- The number that is read is a finite one. -/
def ReadsFinite (i : Option Float) : Prop := ∃ x, i = some x ∧ x.isFinite = true

theorem readsFinite_some {x : Float} : ReadsFinite (some x) ↔ x.isFinite = true := by
  constructor
  · rintro ⟨y, hy, hfinite⟩
    rwa [Option.some.inj hy]
  · exact fun h => ⟨x, rfl, h⟩

/-- The number that is given under a name. -/
def numberAt (d : Dict Value) (name : String) : Option Float := (d.get? name).bind Value.toFloat?

namespace Expr

mutual

/-- The names of the variables of an expression. -/
def varNames : Expr → List String
  | .num _ => []
  | .var name => [name]
  | .neg e => varNames e
  | .bin _ l r => varNames l ++ varNames r
  | .call _ args => varNamesOf args

/-- The names of the variables of arguments. -/
def varNamesOf : List Expr → List String
  | [] => []
  | e :: rest => varNames e ++ varNamesOf rest

end

/-- A fault that is reported as wrong parameters. -/
def Invalid (f : Fault) : Prop := ∃ text, f.failure = .invalid text

theorem onlyFails_finite (x : Float) : OnlyFails Invalid (finite x) := by
  unfold finite
  split
  · exact .ok _
  · exact .error ⟨_, rfl⟩

theorem onlyFails_applyOp (op : BinOp) (a b : Float) : OnlyFails Invalid (applyOp op a b) := by
  cases op with
  | div | rem =>
      unfold applyOp
      dsimp only
      split
      · exact .error ⟨_, rfl⟩
      · exact .ok _
  | _ => exact .ok _

theorem onlyFails_applyFunc (f : Func) (args : List Float) :
    OnlyFails Invalid (applyFunc f args) := by
  unfold applyFunc
  split
  · exact .error ⟨_, rfl⟩
  · cases f <;> exact .ok _

variable {vars : Dict Value} {α β : Type}

/-! ### What is evaluated in turn -/

theorem eval_neg (vars : Dict Value) (e : Expr) :
    eval vars (.neg e) = eval vars e >>= fun x => finite (-x) := by
  rw [eval]
  cases eval vars e <;> rfl

theorem eval_bin (vars : Dict Value) (op : BinOp) (l r : Expr) :
    eval vars (.bin op l r)
      = eval vars l >>= fun a => eval vars r >>= fun b => applyOp op a b >>= finite := by
  rw [eval]
  cases eval vars l with
  | error f => rfl
  | ok a => cases eval vars r <;> rfl

theorem eval_call (vars : Dict Value) (f : Func) (args : List Expr) :
    eval vars (.call f args) = evalArgs vars args >>= fun xs => applyFunc f xs >>= finite := by
  rw [eval]
  cases evalArgs vars args <;> rfl

theorem evalArgs_cons (vars : Dict Value) (e : Expr) (rest : List Expr) :
    evalArgs vars (e :: rest)
      = eval vars e >>= fun x => evalArgs vars rest >>= fun xs => .ok (x :: xs) := by
  rw [evalArgs]
  cases eval vars e with
  | error f => rfl
  | ok x => cases evalArgs vars rest <;> rfl

/-! ### Variables -/

/-- What is computed with some variables succeeds only if they stand for finite numbers, and reports
wrong parameters if it fails. -/
structure Heeds (vars : Dict Value) (names : List String) {α : Type} (r : Except Fault α) :
    Prop where
  read : ∀ a, r = .ok a → ∀ name ∈ names, ReadsFinite (numberAt vars name)
  reported : OnlyFails Invalid r

namespace Heeds

variable {vars : Dict Value} {names more : List String} {α β : Type} {x : Except Fault α}
  {f : α → Except Fault β}

theorem of_fails (h : OnlyFails Invalid x) : Heeds vars [] x :=
  ⟨fun _ _ _ hname => (nomatch hname), h⟩

theorem bind (hx : Heeds vars names x) (hf : ∀ a, Heeds vars more (f a)) :
    Heeds vars (names ++ more) (x >>= f) := by
  refine ⟨fun b hb name hname => ?_, hx.reported.bind fun a => (hf a).reported⟩
  obtain ⟨a, ha, hfa⟩ := bind_eq_ok.1 hb
  rcases List.mem_append.1 hname with hfirst | hmore
  · exact hx.read a ha name hfirst
  · exact (hf a).read b hfa name hmore

theorem bind_fails (hx : Heeds vars names x) (hf : ∀ a, OnlyFails Invalid (f a)) :
    Heeds vars names (x >>= f) := by
  have h : Heeds vars (names ++ []) (x >>= f) := hx.bind fun a => of_fails (hf a)
  rwa [List.append_nil] at h

end Heeds

variable {vars : Dict Value}

theorem heeds_var (name : String) :
    Heeds vars [name] ((lookupNumber vars name).bind finite) := by
  cases hfound : (vars.get? name).bind Value.toFloat? with
  | none =>
      have hunknown : (lookupNumber vars name).bind finite = .error (.unknownVariable name) := by
        rw [lookupNumber, hfound]
        rfl
      rw [hunknown]
      exact ⟨nofun, .error ⟨_, rfl⟩⟩
  | some x =>
      have hknown : (lookupNumber vars name).bind finite = finite x := by
        rw [lookupNumber, hfound]
        rfl
      rw [hknown]
      refine ⟨fun a h => List.forall_mem_singleton.2 ?_, onlyFails_finite x⟩
      unfold finite at h
      split at h
      · next hx => exact ⟨x, hfound, hx⟩
      · cases h

mutual

/-- An expression that is read heeds its variables. -/
theorem heeds_eval : ∀ e, Heeds vars (varNames e) (eval vars e)
  | .num x => by
      rw [varNames, eval]
      exact .of_fails (onlyFails_finite x)
  | .var name => by
      rw [varNames, eval]
      exact heeds_var name
  | .neg e => by
      rw [varNames, eval_neg]
      exact (heeds_eval e).bind_fails fun x => onlyFails_finite (-x)
  | .bin op l r => by
      rw [varNames, eval_bin]
      exact (heeds_eval l).bind fun a =>
        (heeds_eval r).bind_fails fun b => (onlyFails_applyOp op a b).bind onlyFails_finite
  | .call f args => by
      rw [varNames, eval_call]
      exact (heeds_evalArgs args).bind_fails fun xs =>
        (onlyFails_applyFunc f xs).bind onlyFails_finite

theorem heeds_evalArgs : ∀ es, Heeds vars (varNamesOf es) (evalArgs vars es)
  | [] => by
      rw [varNamesOf, evalArgs]
      exact .of_fails (.ok [])
  | e :: rest => by
      rw [varNamesOf, evalArgs_cons]
      exact (heeds_eval e).bind fun x => (heeds_evalArgs rest).bind_fails fun xs => .ok (x :: xs)

end

end Expr

end Planwright
