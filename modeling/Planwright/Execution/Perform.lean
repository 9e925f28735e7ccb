import Planwright.Execution.Several
import Planwright.Trace

set_option autoImplicit false

/-!
# Carrying out one instruction

A plain instruction gives a value and, if one provider was asked, the name of that provider.
Where it calls providers and fails in a way that another provider may mend, the fallbacks of the
recipe are tried in their order, each once, until one succeeds; if none does, the first failure
stands.
-/

namespace Planwright

/-- The result of an instruction: a value, and the provider that gave it. -/
abbrev Performed : Type := Value × Option String

namespace Act

/-- The path that the input of a transform names: written plainly, or as one reference. -/
def inputPath (input : String) : String := (Template.parse input).single?.getD input

/-- The result of a calculation. -/
def calculated (policy : UnresolvedPolicy) (ctx : Context) (operation : Calculation)
    (params : Value) : Except Failure Value := do
  let params ← ctx.resolveValue policy params
  match operation.run params with
  | .ok v => .ok v
  | .error f => .error f.failure

/-- The result of a transform of a value in the context. -/
def transformed (ctx : Context) (input : String) (function : Transform) (places : Option Nat) :
    Except Failure Value :=
  match ctx.resolve (inputPath input) with
  | none => .error (.invalid ("transform input '" ++ inputPath input ++ "' is not set"))
  | some v =>
    match function.apply v places with
    | .ok v => .ok v
    | .error f => .error f.failure

/-- The failure of an error step, or the one of its text. -/
def failed (policy : UnresolvedPolicy) (ctx : Context) (e : ErrorStep) : Failure :=
  match ctx.render policy e.message with
  | .ok text => e.failure text
  | .error f => f

end Act

namespace Surroundings

/-- Invokes an action and awaits its answer. -/
def invoke (s : Surroundings) (ctx : Context) (w : World) (action : String) (params : Value) :
    Ended Value × World :=
  match w.catalog.action? action with
  | none =>
    (.error (.failed (.unknownOperation ("custom action '" ++ action ++ "' is not registered"))), w)
  | some run =>
    match ctx.resolveValue s.config.unresolved params with
    | .error f => (.error (.failed f), w)
    | .ok params =>
      let reply := run w.invoked params
      let w := w.invoke action params
      let finish := w.now + reply.delayMs
      if s.cutsBefore finish then (.error .interrupted, s.interrupt w)
      else (.of reply.result, w.at_ finish)

/-- Carries out an instruction. -/
def perform (s : Surroundings) (ctx : Context) (w : World) (act : Act) :
    Ended Performed × World :=
  match act with
  | .call c =>
    match s.callOne ctx w c with
    | (.ok (v, provider), w) => (.ok (v, some provider), w)
    | (.error stop, w) => (.error stop, w)
  | .parallel calls =>
    match s.callParallel ctx w calls with
    | (.ok v, w) => (.ok (v, none), w)
    | (.error stop, w) => (.error stop, w)
  | .batch provider calls =>
    match ctx.render s.config.unresolved provider with
    | .error f => (.error (.failed f), w)
    | .ok provider =>
      match s.callBatch ctx w provider calls with
      | (.ok v, w) => (.ok (v, some provider), w)
      | (.error stop, w) => (.error stop, w)
  | .custom action params =>
    match s.invoke ctx w action params with
    | (.ok v, w) => (.ok (v, none), w)
    | (.error stop, w) => (.error stop, w)
  | .calculate operation params =>
    (.of ((Act.calculated s.config.unresolved ctx operation params).map fun v => (v, none)), w)
  | .format template =>
    (.of ((ctx.render s.config.unresolved template).map fun text => (.text text, none)), w)
  | .transform input function places =>
    (.of ((Act.transformed ctx input function places).map fun v => (v, none)), w)
  | .fail e => (.error (.failed (Act.failed s.config.unresolved ctx e)), w)

/-- Tries fallbacks in their order until one succeeds; `first` is the failure that stands if none
does. -/
def tryFallbacks (s : Surroundings) (ctx : Context) (act : Act) (first : Failure) :
    World → List String → Ended (Performed × StepStatus) × World
  | w, [] => (.error (.failed first), w)
  | w, provider :: rest =>
    match s.perform ctx w (act.withProvider provider) with
    | (.ok (v, _), w) => (.ok ((v, some provider), .completedViaFallback), w)
    | (.error .interrupted, w) => (.error .interrupted, w)
    | (.error (.failed _), w) => s.tryFallbacks ctx act first w rest

/-- Carries out an instruction, with fallbacks where they may help. -/
def attempt (s : Surroundings) (fallbacks : List String) (ctx : Context) (w : World) (act : Act) :
    Ended (Performed × StepStatus) × World :=
  match s.perform ctx w act with
  | (.ok p, w) => (.ok (p, .completed), w)
  | (.error .interrupted, w) => (.error .interrupted, w)
  | (.error (.failed f), w) =>
    if act.usesProviders && f.allowsFallback then s.tryFallbacks ctx act f w fallbacks
    else (.error (.failed f), w)

end Surroundings

end Planwright
