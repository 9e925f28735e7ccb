import Planwright.Execution.Perform
import Planwright.Proofs.Double.NonFinite
import Planwright.Proofs.Expr.Variables

set_option autoImplicit false

/-!
# Operations on numbers

Some transforms and all calculations are about numbers.  Each is meant to end in one of two ways:
with a finite number, all numbers that it reads being finite, or with a report of wrong parameters
(`Reliable`).  Rounding a number and taking its size do not always: they give null where no finite
number comes out.  Reading a number out of a text does, and so do the calculations, interest as far
as its power makes nothing finite of a rate, a time or a frequency that is not
(`numbers_reliable_iff`).
-/

namespace Planwright

open Fallible

/-- How an operation is meant to end that reads some numbers, or none where an expression cannot be
read. -/
inductive Reliable : Option (List (Option Float)) → Except Failure Value → Prop where
  /-- it gives a finite number, and all that is read is finite -/
  | number {inputs : List (Option Float)} {x : Float} (finite : x.isFinite = true)
      (read : ∀ i ∈ inputs, ReadsFinite i) : Reliable (some inputs) (.ok (.number (.real x)))
  /-- it reports wrong parameters -/
  | reported {inputs : List (Option Float)} (text : String) :
      Reliable (some inputs) (.error (.invalid text))
  /-- it fails before numbers are read -/
  | unread (f : Failure) : Reliable none (.error f)

theorem Value.ofFloat_of_isFinite {x : Float} (h : x.isFinite = true) :
    Value.ofFloat x = .number (.real x) := if_pos h

theorem Value.ofFloat_of_not_isFinite {x : Float} (h : x.isFinite = false) :
    Value.ofFloat x = .null := by
  rw [ofFloat, h]
  rfl

/-! ## Transforms -/

/-- The numbers that structured text can hold: integers of 64 bits, with or without a sign, and
finite doubles. -/
def Number.Ranged : Number → Prop
  | .integer n => -(2 ^ 63) ≤ n ∧ n < 2 ^ 64
  | .real x => x.isFinite = true

namespace Transform

/-- Whether a transform is about numbers. -/
def isNumeric : Transform → Bool
  | .parseNumber | .round | .abs => true
  | _ => false

/-- The number that a transform reads out of a value. -/
def read (t : Transform) (input : Value) : Option Float :=
  match t, input with
  | .parseNumber, .number n => some n.toFloat
  | .parseNumber, .text s => Double.readFloat (undecorated s.toList)
  | .parseNumber, _ => none
  | _, _ => input.toFloat?

/-- The result of a transform as a step sees it. -/
def outcome (t : Transform) (places : Option Nat) (input : Value) : Except Failure Value :=
  match t.apply input places with
  | .ok v => .ok v
  | .error f => .error f.failure

/-- Where a transform of numbers is reliable: one that reads numbers out of text always, the others
where a number that is read leads to a finite one. -/
def Safe (t : Transform) (places : Option Nat) (input : Value) : Prop :=
  match t with
  | .round => ∀ x, input.toFloat? = some x →
      (Expr.roundTo (min (places.getD defaultPlaces) maxPlaces) x).isFinite = true
  | .abs => ∀ x, input.toFloat? = some x → x.isFinite = true
  | _ => True

end Transform

theorem Number.isFinite_toFloat {n : Number} (h : n.Ranged) : n.toFloat.isFinite = true := by
  cases n with
  | real x => exact h
  | integer n =>
      obtain ⟨hlow, hhigh⟩ := h
      cases n with
      | ofNat k =>
          have hk : k < 2 ^ 64 := Int.ofNat_lt.1 hhigh
          exact (Double.within_ofNat hk (by decide)).isFinite
      | negSucc k =>
          have hk : k.succ < 2 ^ 64 := by omega
          exact ((Double.within_ofNat hk (by decide)).neg (by decide)).isFinite

theorem finite_of_roundTo {digits : Nat} {x : Float} (h : (Expr.roundTo digits x).isFinite = true) :
    x.isFinite = true :=
  (Double.operands_of_mul (Double.finite_of_nearestWhole (Double.dividend_of_div h))).1

namespace Transform

/-- A transform that needs a number and changes it is reliable where the change gives a finite
number, if it gives none for others. -/
theorem reliable_change_iff (t : Transform) {change : Float → Float}
    (hchange : ∀ x, (change x).isFinite = true → x.isFinite = true) (input : Value) :
    Reliable (some [input.toFloat?])
        (match (numberOf t input).map fun x => Value.ofFloat (change x) with
          | .ok v => .ok v
          | .error f => .error f.failure) ↔
      ∀ x, input.toFloat? = some x → (change x).isFinite = true := by
  unfold numberOf
  cases input.toFloat? with
  | none => exact iff_of_true (.reported _) nofun
  | some x =>
      cases hfinite : (change x).isFinite with
      | true =>
          have hread : ∀ i ∈ [some x], ReadsFinite i :=
            List.forall_mem_singleton.2 (readsFinite_some.2 (hchange x hfinite))
          refine iff_of_true ?_ fun y hy => ?_
          · simp only [Except.map, Value.ofFloat_of_isFinite hfinite]
            exact .number hfinite hread
          · rwa [← Option.some.inj hy]
      | false =>
          refine iff_of_false ?_ fun h => ?_
          · simp only [Except.map, Value.ofFloat_of_not_isFinite hfinite]
            nofun
          · cases hfinite.symm.trans (h x rfl)

theorem reliable_parseNumber (places : Option Nat) {input : Value}
    (h : ∀ n, input = .number n → n.Ranged) :
    Reliable (some [read .parseNumber input]) (outcome .parseNumber places input) := by
  have hnumber {x : Float} (hx : x.isFinite = true) :
      Reliable (some [some x]) (.ok (Value.ofFloat x)) := by
    rw [Value.ofFloat_of_isFinite hx]
    exact .number hx (List.forall_mem_singleton.2 (readsFinite_some.2 hx))
  cases input with
  | number n => exact hnumber (Number.isFinite_toFloat (h n rfl))
  | text s =>
      unfold outcome apply readNumber read
      dsimp only
      cases Double.readFloat (undecorated s.toList) with
      | none => exact .reported _
      | some x =>
          cases hx : x.isFinite with
          | true => simpa [hx, Except.map] using hnumber hx
          | false => simpa [hx, Except.map] using .reported _
  | _ => exact .reported _

/-- A transform of numbers is reliable where it is safe, and nowhere else. -/
theorem reliable_iff_safe {t : Transform} (ht : t.isNumeric = true) (places : Option Nat)
    {input : Value} (h : ∀ n, input = .number n → n.Ranged) :
    Reliable (some [t.read input]) (t.outcome places input) ↔ t.Safe places input := by
  cases t with
  | parseNumber => exact iff_of_true (reliable_parseNumber places h) trivial
  | round => exact reliable_change_iff .round (fun _ => finite_of_roundTo) input
  | abs =>
      refine (reliable_change_iff .abs (fun _ => Double.isFinite_abs_iff.1) input).trans ?_
      simp only [Double.isFinite_abs_iff]
      exact Iff.rfl
  | _ => cases ht

end Transform

/-! ## Calculations -/

namespace Calculation

open Double

/-! ### Sums -/

theorem finite_of_foldl_add {a : Float} {xs : List Float}
    (h : (xs.foldl (· + ·) a).isFinite = true) :
    a.isFinite = true ∧ ∀ x ∈ xs, x.isFinite = true := by
  induction xs generalizing a with
  | nil => exact ⟨h, fun _ hx => nomatch hx⟩
  | cons x xs ih =>
      obtain ⟨hsum, hrest⟩ := ih h
      obtain ⟨ha, hx⟩ := operands_of_add hsum
      exact ⟨ha, List.forall_mem_cons.2 ⟨hx, hrest⟩⟩

theorem finite_of_meanOf {xs : List Float} (h : (meanOf xs).isFinite = true) :
    ∀ x ∈ xs, x.isFinite = true :=
  (finite_of_foldl_add (dividend_of_div h)).2

theorem finite_of_squares {m : Float} {xs : List Float} (hne : xs ≠ [])
    (h : (squares m xs).isFinite = true) : m.isFinite = true := by
  obtain ⟨x, hx⟩ := List.exists_mem_of_ne_nil xs hne
  have hsquare := (finite_of_foldl_add h).2 _ (List.mem_map_of_mem hx)
  exact (operands_of_sub (operands_of_mul hsquare).1).2

theorem finite_of_deviationOf {xs : List Float} (hne : xs ≠ [])
    (h : (deviationOf xs).isFinite = true) : ∀ x ∈ xs, x.isFinite = true :=
  finite_of_meanOf (finite_of_squares hne (dividend_of_div (radicand_of_sqrt h)))

theorem finite_of_round2 {x : Float} (h : (round2 x).isFinite = true) : x.isFinite = true :=
  (operands_of_mul (finite_of_nearestWhole (dividend_of_div h))).1

theorem finite_of_correlationOf {xs ys : List Float} {r : Float} (h : correlationOf xs ys = .ok r)
    (hr : r.isFinite = true) :
    (∀ x ∈ xs, x.isFinite = true) ∧ ∀ y ∈ ys, y.isFinite = true := by
  unfold correlationOf at h
  split at h
  · cases h
  · next hlengths =>
    dsimp only at h
    split at h
    · cases h
    · obtain rfl := Except.ok.inj h
      have hjoint := (finite_of_foldl_add (dividend_of_div hr)).2
      obtain ⟨hsame, hlong⟩ := not_or.1 hlengths
      rw [not_not] at hsame
      have hne : xs.zip ys ≠ [] := by
        intro hempty
        have hlength := congrArg List.length hempty
        rw [List.length_zip, List.length_nil] at hlength
        omega
      -- each product has the means of both series in it
      obtain ⟨⟨x, y⟩, hpair⟩ := List.exists_mem_of_ne_nil _ hne
      obtain ⟨hx, hy⟩ := operands_of_mul (hjoint _ (List.mem_map_of_mem hpair))
      exact ⟨finite_of_meanOf (operands_of_sub hx).2, finite_of_meanOf (operands_of_sub hy).2⟩

/-! ### What is read -/

/-- The numbers that a list under a name is made of. -/
def itemsAt (d : Dict Value) (name : String) : List (Option Float) :=
  match d.get? name with
  | some (.list items) => items.map Value.toFloat?
  | _ => [none]

/-- The number that a frequency is given by, if it is given. -/
def frequencyAt (d : Dict Value) : List (Option Float) :=
  match d.get? "compoundFrequency" with
  | none | some .null => []
  | some v => [v.toFloat?]

/-- The variables that are given for an expression. -/
def givenVars (d : Dict Value) : Except Fault (Dict Value) :=
  match d.get? "variables" with
  | some (.object vars) => .ok vars
  | none => .ok []
  | some .null => .ok []
  | some _ => .error .variablesNotAnObject

/-- The numbers that the variables of an expression stand for, if the expression can be read. -/
def variablesAt (d : Dict Value) : Option (List (Option Float)) :=
  match d.get? "expression" with
  | some (.text source) =>
    match givenVars d with
    | .ok vars => (Expr.parse source).toOption.map fun e => e.varNames.map (numberAt vars)
    | .error _ => some []
  | _ => some []

/-- The numbers that a calculation reads from its parameters. -/
def inputs (c : Calculation) (params : Value) : Option (List (Option Float)) :=
  match membersOf params with
  | .error _ => some []
  | .ok d =>
    match c with
    | .compoundInterest => some (["principal", "rate", "time"].map (numberAt d) ++ frequencyAt d)
    | .percentageChange => some (["from", "to"].map (numberAt d))
    | .standardDeviation => some (itemsAt d "values")
    | .mean => some (itemsAt d "values")
    | .correlation => some (itemsAt d "x" ++ itemsAt d "y")
    | .evaluate => variablesAt d

/-- The result of a calculation as a step sees it. -/
def outcome (c : Calculation) (params : Value) : Except Failure Value :=
  match c.run params with
  | .ok v => .ok v
  | .error f => .error f.failure

/-- Where a calculation is reliable: interest where a rate, a time or a frequency that is no finite
number leads to no finite result, and all others always. -/
def Safe (c : Calculation) (params : Value) : Prop :=
  c = .compoundInterest → ∀ d x, membersOf params = .ok d → compound d = .ok x →
    x.isFinite = true → ∀ i ∈ ["rate", "time"].map (numberAt d) ++ frequencyAt d, ReadsFinite i

/-- A fault that is reported as wrong parameters. -/
def Invalid (f : Fault) : Prop := ∃ text, f.failure = .invalid text

variable {d : Dict Value} {name : String} {x : Float} {xs : List Float}

theorem onlyFails_field (d : Dict Value) (name : String) : OnlyFails Invalid (field d name) := by
  unfold field
  split
  · exact .ok _
  · exact .error ⟨_, rfl⟩

theorem numberAt_of_field (h : field d name = .ok x) : numberAt d name = some x := by
  unfold field at h
  unfold numberAt
  split at h
  · next hfound => rwa [← Except.ok.inj h]
  · cases h

theorem onlyFails_series (d : Dict Value) (name : String) : OnlyFails Invalid (series d name) := by
  unfold series
  split
  · exact .error ⟨_, rfl⟩
  · refine .mapM _ fun v => ?_
    split
    · exact .ok _
    · exact .error ⟨_, rfl⟩
  · exact .error ⟨_, rfl⟩

/-- A series that is read has items, and they are the numbers that the list is made of. -/
theorem itemsAt_of_series (h : series d name = .ok xs) :
    xs ≠ [] ∧ itemsAt d name = xs.map some := by
  unfold series at h
  unfold itemsAt
  split at h
  · cases h
  · next items hnonempty hlist =>
    have hitems : items.map Value.toFloat? = xs.map some := by
      refine map_eq_of_mapM_eq_ok (fun v x hv => ?_) h
      split at hv
      · next hread => rwa [← Except.ok.inj hv]
      · cases hv
    rw [hlist]
    refine ⟨?_, hitems⟩
    rintro rfl
    exact hnonempty (List.map_eq_nil_iff.1 hitems)
  · cases h

theorem readsFinite_map {xs : List Float} (h : ∀ x ∈ xs, x.isFinite = true) :
    ∀ i ∈ xs.map some, ReadsFinite i :=
  List.forall_mem_map.2 fun x hx => readsFinite_some.2 (h x hx)

/-! ### The rules -/

/-- What a rule computes from parameters gives a finite number only if some numbers that are read
are finite, and it reports wrong parameters if it fails. -/
structure Heeds (inputs : List (Option Float)) (r : Except Fault Float) : Prop where
  read : ∀ x, r = .ok x → x.isFinite = true → ∀ i ∈ inputs, ReadsFinite i
  reported : OnlyFails Invalid r

theorem heeds_series {name : String} {rule : List Float → Float}
    (h : ∀ xs, xs ≠ [] → (rule xs).isFinite = true → ∀ x ∈ xs, x.isFinite = true)
    (d : Dict Value) : Heeds (itemsAt d name) ((series d name).map rule) := by
  refine ⟨fun r hr hfinite => ?_, (onlyFails_series d name).map⟩
  obtain ⟨xs, hxs, rfl⟩ := map_eq_ok.1 hr
  obtain ⟨hne, hitems⟩ := itemsAt_of_series hxs
  rw [hitems]
  exact readsFinite_map (h xs hne hfinite)

theorem heeds_correlation (d : Dict Value) :
    Heeds (itemsAt d "x" ++ itemsAt d "y") (compute .correlation d) := by
  constructor
  · intro r hr hfinite
    obtain ⟨xs, hxs, hr⟩ := bind_eq_ok.1 hr
    obtain ⟨ys, hys, hr⟩ := bind_eq_ok.1 hr
    obtain ⟨hx, hy⟩ := finite_of_correlationOf hr hfinite
    rw [(itemsAt_of_series hxs).2, (itemsAt_of_series hys).2]
    exact List.forall_mem_append.2 ⟨readsFinite_map hx, readsFinite_map hy⟩
  · refine (onlyFails_series d "x").bind fun xs => (onlyFails_series d "y").bind fun ys => ?_
    unfold correlationOf
    split
    · exact .error ⟨_, rfl⟩
    · dsimp only
      split
      · exact .error ⟨_, rfl⟩
      · exact .ok _

theorem heeds_change (d : Dict Value) : Heeds (["from", "to"].map (numberAt d)) (change d) := by
  constructor
  · intro r hr hfinite
    obtain ⟨start, hstart, hr⟩ := bind_eq_ok.1 hr
    obtain ⟨finish, hfinish, hr⟩ := bind_eq_ok.1 hr
    split at hr
    · cases hr
    · obtain rfl := Except.ok.inj hr
      obtain ⟨hquotient, -⟩ := operands_of_mul (finite_of_round2 hfinite)
      obtain ⟨hto, hfrom⟩ := operands_of_sub (dividend_of_div hquotient)
      simp only [List.map_cons, List.map_nil, List.forall_mem_cons, numberAt_of_field hstart,
        numberAt_of_field hfinish, readsFinite_some]
      exact ⟨hfrom, hto, fun _ hi => nomatch hi⟩
  · refine (onlyFails_field d "from").bind fun start =>
      (onlyFails_field d "to").bind fun finish => ?_
    split
    · exact .error ⟨_, rfl⟩
    · exact .ok _

/-- How often interest is compounded. -/
def frequency (d : Dict Value) : Except Fault Float :=
  match d.get? "compoundFrequency" with
  | none => .ok monthly
  | some .null => .ok monthly
  | some _ => field d "compoundFrequency"

/-- Interest on numbers that were read. -/
def interest (principal rate time n : Float) : Except Fault Float :=
  if n ≤ 0.0 then .error .frequencyNotPositive
  else .ok (round2 (principal * (1.0 + rate / 100.0 / n).pow (n * time)))

theorem compound_eq (d : Dict Value) :
    compound d
      = field d "principal" >>= fun principal => field d "rate" >>= fun rate =>
        field d "time" >>= fun time => frequency d >>= interest principal rate time := by
  unfold compound frequency
  refine congrArg _ (funext fun principal => congrArg _ (funext fun rate =>
    congrArg _ (funext fun time => ?_)))
  cases d.get? "compoundFrequency" with
  | none => rfl
  | some v => cases v <;> rfl

theorem onlyFails_frequency (d : Dict Value) : OnlyFails Invalid (frequency d) := by
  unfold frequency
  split
  · exact .ok _
  · exact .ok _
  · exact onlyFails_field d "compoundFrequency"

/-- A principal is heeded, whatever interest does. -/
theorem heeds_compound (d : Dict Value) : Heeds [numberAt d "principal"] (compound d) := by
  rw [compound_eq]
  constructor
  · intro r hr hfinite
    obtain ⟨principal, hprincipal, hr⟩ := bind_eq_ok.1 hr
    obtain ⟨rate, -, hr⟩ := bind_eq_ok.1 hr
    obtain ⟨time, -, hr⟩ := bind_eq_ok.1 hr
    obtain ⟨n, -, hr⟩ := bind_eq_ok.1 hr
    unfold interest at hr
    split at hr
    · cases hr
    · obtain rfl := Except.ok.inj hr
      rw [numberAt_of_field hprincipal]
      exact List.forall_mem_singleton.2
        (readsFinite_some.2 (operands_of_mul (finite_of_round2 hfinite)).1)
  · refine (onlyFails_field d "principal").bind fun principal =>
      (onlyFails_field d "rate").bind fun rate => (onlyFails_field d "time").bind fun time =>
        (onlyFails_frequency d).bind fun n => ?_
    unfold interest
    split
    · exact .error ⟨_, rfl⟩
    · exact .ok _

/-- The value of an expression in variables that were read. -/
def evaluated (source : String) (vars : Dict Value) : Except Fault Float :=
  match Expr.evaluate source vars with
  | .ok x => .ok x
  | .error f => .error (.expression f)

theorem onlyFails_givenVars (d : Dict Value) : OnlyFails Invalid (givenVars d) := by
  unfold givenVars
  split
  · exact .ok _
  · exact .ok _
  · exact .ok _
  · exact .error ⟨_, rfl⟩

theorem expression_of_source {source : String}
    (h : d.get? "expression" = some (.text source)) :
    expression d = givenVars d >>= evaluated source := by
  unfold expression givenVars
  rw [h]
  cases d.get? "variables" with
  | none => rfl
  | some v => cases v <;> rfl

theorem expression_of_no_source (h : ∀ source, d.get? "expression" ≠ some (.text source)) :
    expression d = .error .noExpression := by
  unfold expression
  cases hsource : d.get? "expression" with
  | none => rfl
  | some v =>
      cases v with
      | text source => exact absurd hsource (h source)
      | _ => rfl

/-- An expression that is read heeds its variables among the parameters. -/
theorem heeds_evaluated {source : String} {e : Expr} (h : Expr.parse source = .ok e)
    (vars : Dict Value) : Heeds (e.varNames.map (numberAt vars)) (evaluated source vars) := by
  have heeds : Expr.Heeds vars e.varNames (Expr.eval vars e) := Expr.heeds_eval e
  rw [evaluated, Expr.evaluate, h, Except.bind]
  constructor
  · intro x hx _
    cases heval : Expr.eval vars e with
    | error f =>
        rw [heval] at hx
        cases hx
    | ok y => exact List.forall_mem_map.2 (heeds.read y heval)
  · cases heval : Expr.eval vars e with
    | error f => exact .error (heeds.reported f heval)
    | ok y => exact .ok y

theorem Heeds.of_fault {inputs : List (Option Float)} {f : Fault} (h : Invalid f) :
    Heeds inputs (.error f) :=
  ⟨fun _ hx => (nomatch hx), .error h⟩

theorem heeds_expression {inputs : List (Option Float)} (h : variablesAt d = some inputs) :
    Heeds inputs (expression d) := by
  unfold variablesAt at h
  split at h
  · next source hsource =>
    rw [expression_of_source hsource]
    split at h
    · next vars hvars =>
      obtain ⟨e, hparse, rfl⟩ := Option.map_eq_some_iff.1 h
      rw [hvars]
      exact heeds_evaluated (eq_ok_of_toOption hparse) vars
    · next f hvars =>
      rw [hvars]
      exact .of_fault (onlyFails_givenVars d f hvars)
  · next hnone =>
    rw [expression_of_no_source hnone]
    exact .of_fault ⟨_, rfl⟩

/-! ### Outcomes -/

section

variable {c : Calculation} {params : Value} {inputs : List (Option Float)}

theorem outcome_of_error {f : Fault} (hd : membersOf params = .ok d) (h : c.compute d = .error f) :
    c.outcome params = .error f.failure := by
  rw [outcome, run, hd, bind_of_ok, h]
  rfl

theorem outcome_of_ok (hd : membersOf params = .ok d) (h : c.compute d = .ok x) :
    c.outcome params
      = if x.isFinite = true then .ok (.number (.real x)) else .error Fault.notFinite.failure := by
  rw [outcome, run, hd, bind_of_ok, h, bind_of_ok]
  by_cases hx : x.isFinite = true
  · rw [if_pos hx, if_pos hx]
  · rw [if_neg hx, if_neg hx]

/-- A calculation is reliable where its rule gives no finite number unless all that is read is
finite. -/
theorem reliable_iff_reads (hd : membersOf params = .ok d)
    (hfails : OnlyFails Invalid (c.compute d)) :
    Reliable (some inputs) (c.outcome params) ↔
      ∀ x, c.compute d = .ok x → x.isFinite = true → ∀ i ∈ inputs, ReadsFinite i := by
  cases hcompute : c.compute d with
  | error f =>
      obtain ⟨text, htext⟩ := hfails f hcompute
      rw [outcome_of_error hd hcompute, htext]
      exact iff_of_true (.reported text) nofun
  | ok x =>
      rw [outcome_of_ok hd hcompute]
      split
      · next hx =>
        constructor
        · rintro (⟨-, hread⟩) _ _ _
          exact hread
        · exact fun h => .number hx (h x rfl hx)
      · next hx =>
        refine iff_of_true (.reported _) fun y hy hfinite => ?_
        rw [← Except.ok.inj hy] at hfinite
        exact absurd hfinite hx

theorem Heeds.reliable (hd : membersOf params = .ok d) (h : Heeds inputs (c.compute d)) :
    Reliable (some inputs) (c.outcome params) :=
  (reliable_iff_reads hd h.reported).2 h.read

theorem reliable_of_not_members {f : Fault} (h : membersOf params = .error f) :
    Reliable (some []) (c.outcome params) := by
  rw [outcome, run, h]
  unfold membersOf at h
  split at h
  · cases h
  · cases h
  · cases h
    exact .reported _

/-- Where an expression cannot be read, nothing is calculated. -/
theorem exists_error_of_unread (hd : membersOf params = .ok d) (h : variablesAt d = none) :
    ∃ f, outcome .evaluate params = .error f := by
  unfold variablesAt at h
  split at h
  · next source hsource =>
    split at h
    · next vars hvars =>
      cases hparse : Expr.parse source with
      | ok e =>
          rw [hparse] at h
          cases h
      | error f =>
          have hfails : compute .evaluate d = .error (.expression f) := by
            rw [compute, expression_of_source hsource, hvars, bind_of_ok, evaluated, Expr.evaluate,
              hparse]
            rfl
          exact ⟨_, outcome_of_error hd hfails⟩
    · cases h
  · cases h

end

/-- A calculation is reliable where it is safe, and nowhere else. -/
theorem reliable_iff_safe (c : Calculation) (params : Value) :
    Reliable (c.inputs params) (c.outcome params) ↔ c.Safe params := by
  unfold inputs
  cases hd : membersOf params with
  | error f =>
      refine iff_of_true (reliable_of_not_members hd) fun _ d x h => ?_
      cases hd.symm.trans h
  | ok d =>
      have hsafe (hc : c ≠ .compoundInterest) : c.Safe params := fun h => absurd h hc
      dsimp only
      cases c with
      | compoundInterest =>
          have hheeds : Heeds [numberAt d "principal"] (compute .compoundInterest d) :=
            heeds_compound d
          rw [reliable_iff_reads hd hheeds.reported]
          constructor
          · intro h _ d' x hd' hx hfinite
            obtain rfl := Except.ok.inj (hd.symm.trans hd')
            exact (List.forall_mem_cons.1 (h x hx hfinite)).2
          · intro h x hx hfinite
            exact List.forall_mem_cons.2
              ⟨List.forall_mem_singleton.1 (hheeds.read x hx hfinite), h rfl d x hd hx hfinite⟩
      | percentageChange =>
          have hheeds : Heeds _ (compute .percentageChange d) := heeds_change d
          exact iff_of_true (hheeds.reliable hd) (hsafe nofun)
      | standardDeviation =>
          have hheeds : Heeds (itemsAt d "values") (compute .standardDeviation d) :=
            heeds_series (fun _ => finite_of_deviationOf) d
          exact iff_of_true (hheeds.reliable hd) (hsafe nofun)
      | mean =>
          have hheeds : Heeds (itemsAt d "values") (compute .mean d) :=
            heeds_series (fun _ _ => finite_of_meanOf) d
          exact iff_of_true (hheeds.reliable hd) (hsafe nofun)
      | correlation => exact iff_of_true ((heeds_correlation d).reliable hd) (hsafe nofun)
      | evaluate =>
          refine iff_of_true ?_ (hsafe nofun)
          cases hinputs : variablesAt d with
          | some inputs =>
              have hheeds : Heeds inputs (compute .evaluate d) := heeds_expression hinputs
              exact hheeds.reliable hd
          | none =>
              obtain ⟨f, hf⟩ := exists_error_of_unread hd hinputs
              dsimp only
              rw [hf]
              exact .unread f

end Calculation

/-! ## Where they are applied -/

section

variable {ctx : Context} {v : Value}

theorem transformed_eq {path : String} (h : ctx.resolve (Act.inputPath path) = some v)
    (t : Transform) (places : Option Nat) :
    Act.transformed ctx path t places = t.outcome places v := by
  rw [Act.transformed, h]
  rfl

theorem apply_member_eq {members : Dict Value} {field : String}
    (h : members.get? field = some v) (t : Transform) (places : Option Nat) :
    (⟨t, some field, places⟩ : ResponseTransform).apply (.object members)
      = (t.outcome places v).map fun w => .object (members.put field w) := by
  unfold ResponseTransform.apply
  dsimp only
  rw [h]
  rfl

theorem calculated_eq {policy : UnresolvedPolicy} {params : Value}
    (h : ctx.resolveValue policy params = .ok v) (c : Calculation) :
    Act.calculated policy ctx c params = c.outcome v := by
  rw [Act.calculated, h]
  rfl

end

/-- **Operations on numbers.**  A transform of numbers ends as it is meant to exactly where it is
safe: reading a number out of a text does always, taking the size of a number where that number is
finite, and rounding where what is rounded is.  It does the same in a step and to an answer, whole
or one member of it.  A calculation always ends as it is meant to, but interest only where a rate, a
time or a frequency that is no finite number leads to none. -/
theorem numbers_reliable_iff (v : Value) (hv : ∀ n, v = .number n → n.Ranged) :
    (∀ (t : Transform) (places : Option Nat), t.isNumeric = true →
      (Reliable (some [t.read v]) (t.outcome places v) ↔ t.Safe places v) ∧
      (∀ (ctx : Context) (path : String), ctx.resolve (Act.inputPath path) = some v →
        Act.transformed ctx path t places = t.outcome places v) ∧
      (⟨t, none, places⟩ : ResponseTransform).apply v = t.outcome places v ∧
      ∀ (members : Dict Value) (field : String), members.get? field = some v →
        (⟨t, some field, places⟩ : ResponseTransform).apply (.object members)
          = (t.outcome places v).map fun w => .object (members.put field w)) ∧
    ∀ (policy : UnresolvedPolicy) (ctx : Context) (c : Calculation) (params : Value),
      ctx.resolveValue policy params = .ok v →
      (Reliable (c.inputs v) (Act.calculated policy ctx c params) ↔ c.Safe v) := by
  constructor
  · intro t places ht
    exact ⟨Transform.reliable_iff_safe ht places hv, fun ctx path h => transformed_eq h t places,
      rfl, fun members field h => apply_member_eq h t places⟩
  · intro policy ctx c params h
    rw [calculated_eq h]
    exact c.reliable_iff_safe v

/-- An infinite number has no size that could be given, and it is not reported. -/
theorem numbers_reliable_iff_infinite :
    (∀ n, Value.text "inf" = .number n → n.Ranged) ∧ Transform.isNumeric .abs = true ∧
      ¬ Reliable (some [Transform.read .abs (.text "inf")])
        (Transform.outcome .abs none (.text "inf")) := by
  have hranged : ∀ n, Value.text "inf" = .number n → n.Ranged := nofun
  refine ⟨hranged, rfl, fun h => ?_⟩
  have hsafe := ((numbers_reliable_iff (.text "inf") hranged).1 .abs none rfl).1.1 h
  have hinfinite : (1.0 / 0.0 : Float).isFinite = false := rfl
  cases hinfinite.symm.trans (hsafe (1.0 / 0.0) rfl)

/-- The size of an infinite number, and a number that is too large to be rounded, are given as null.
Where a number is read out of the same text, it is reported. -/
theorem null_for_infinite :
    Transform.outcome .abs none (.text "inf") = .ok .null ∧
      Transform.outcome .round none (.number (.real (Float.ofBits 0x7FEFFFFFFFFFFFFF)))
        = .ok .null ∧
      Transform.outcome .parseNumber none (.text "inf")
        = .error (.invalid "'inf' is not a number") := by
  refine ⟨rfl, rfl, rfl⟩

end Planwright
