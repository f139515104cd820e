import StepFlow.Bindings
import StepFlow.Declaration
import StepFlow.Value.Arith

namespace StepFlow

open Signature (Scope)
open Numeric (isNan)

-- The meaning of the library's own operations, and of all callables that are called from bodies.
abbrev Host := Callable → List Value → Run Value

-- The argument list of a run: only an explicit list or tuple will do. The complaint about any
-- other value names the first step.
def runArguments (first : Callable) (args : Value) : Except Fault (List Value) :=
  match args.items? with
  | some items => .ok items
  | none => do
    let name ← Fault.met first.displayForm
    .error (.shape (.argumentsNotList name args.typeName))

-- The log record of the first step of a run. A step without a name that can be shown breaks the
-- run off before it is called.
def announceInput (first : Callable) (count : Nat) : Run Unit := do
  let name ← Fault.met first.displayForm
  Run.log .engine s!"pipeline input {name} with {count} argument(s)"

-- The log record of a later step.
def announceStep (index : Nat) (step : Callable) : Run Unit := do
  let name ← Fault.met step.displayForm
  Run.log .engine s!"pipeline step {index}: {name}"

namespace Declaration

-- The only parameter of the steps that read the environment.
def environmentParam : Signature :=
  [⟨"env", .positionalOrKeyword, none⟩]

-- The environment that a step is called with, and its entries.
def environmentArgument (kind : StepKind) (name : Name) (args : List Value) :
    Except Fault Entries := do
  let scope ← Signature.bind name.word environmentParam args
  let env := (scope.lookup "env").getD .none
  match env.entries? with
  | some entries => return entries
  | none => .error (.contract .expectsEnvironment kind (.ofName name) env.typeName)

-- What the body of an input or intermediate step returns has to be a mapping.
def returnedEntries (kind : StepKind) (name : Name) (returned : Value) :
    Except Fault Entries :=
  match returned.entries? with
  | some entries => .ok entries
  | none => .error (.contract .returnsNoEnvironment kind (.ofName name) returned.typeName)

end Declaration

def lookupVar (scope : Scope) (name : String) : Except Fault Value :=
  match scope.lookup name with
  | some v => .ok v
  | none => .error (.nameAbsent name)

def scopeValue (scope : Scope) : Value :=
  .dict (Entries.ofPairs (scope.map fun (name, v) => (.str name, v)))

-- The entries of an operand that has to be a mapping.
def spreadEntries (v : Value) : Except Fault Entries :=
  match v.entries? with
  | some entries => .ok entries
  | none =>
    .error (if v.mappingType?.isSome then v.lacksMapping "keys"
      else .type (.notMapping v.operandType))

def readOnly (v : Value) : Except Fault Value :=
  match v with
  | .dict entries => .ok (.view 0 entries)
  | .view layers entries => .ok (.view (layers + 1) entries)
  | v => .error (.raised .type s!"mappingproxy() argument must be a mapping, not {v.operandType}")

-- Calls a value, which has to be callable.
def Value.call (host : Host) (v : Value) (args : List Value) : Run Value :=
  match v.callable? with
  | some c => host c args
  | Option.none => Run.fail (.type (.notCallable v.operandType))

-- A computed double that is not a number gets an identity.
def settle (v : Value) : Run Value :=
  match v with
  | .float x => if isNan x then Run.identified .nan else return .float x
  | v => return v

mutual

def Callable.call (host : Host) : Callable → List Value → Run Value
  | .function _ ⟨name, params, body, _⟩, args => do
    let scope ← Signature.bind name params args
    body.eval host scope
  | .shell _ _ _ _ _ ⟨name, params, body, _⟩, args => do
    let scope ← Signature.bind name params args
    body.eval host scope
  | .step _ ⟨.input, name, fixed, rest?, body, doc⟩, args =>
    let d : Declaration Value Callable := ⟨.input, name, fixed, rest?, body, doc⟩
    if d.takes args.length then do
      let returned ← body.call host args
      let _ ← Declaration.returnedEntries .input name returned
      return returned
    else Run.fail (.arity (.inputStep name.plain d.expected args.length))
  | .step _ ⟨.intermediate, name, fixed, _, body, _⟩, args => do
    let env ← Declaration.environmentArgument .intermediate name args
    let returned ← body.call host
      (Declaration.bindNames env fixed (Declaration.bodyDefaults body fixed.length))
    let added ← Declaration.returnedEntries .intermediate name returned
    return .dict (Entries.merge env added)
  | .step _ ⟨.output, name, fixed, _, body, _⟩, args => do
    let env ← Declaration.environmentArgument .output name args
    body.call host (Declaration.bindNames env fixed (Declaration.bodyDefaults body fixed.length))
  | .composed _ _ first rest, args => do
    announceInput first args.length
    let env ← first.call host args
    runFrom host 1 rest env
  | .native operation, args => host (.native operation) args
  | .bound self operation, args => host (.native operation) (self :: args)
termination_by structural c => c

-- Runs steps after a value: each is called with a snapshot of what the one before returned.
def runFrom (host : Host) (index : Nat) : List Callable → Value → Run Value
  | [], env => return env
  | step :: steps, env => do
    announceStep index step
    let next ← step.call host [env.snapshot]
    runFrom host (index + 1) steps next
termination_by structural steps => steps

def Expr.eval (host : Host) : Expr → Scope → Run Value
  | .var name, scope => lookupVar scope name
  | .lit value, _ => return value
  | .named name, _ => Run.named name
  | .anew value, _ => Run.identified value.withIdentity
  | .function ⟨name, params, body, doc?⟩, scope => do
    let params ← evalParams host params scope
    Run.identified fun serial => .callable (.function serial ⟨name, params, body, doc?⟩)
  | .shell text name? stepName? introspectable ⟨_, params, body, doc?⟩, scope => do
    let name? ← evalOption host name? scope
    let stepName? ← evalOption host stepName? scope
    let params ← evalParams host params scope
    let name := (name?.bind Value.text?).getD "_f"
    Run.identified fun serial =>
      .callable (.shell serial text name? stepName? introspectable ⟨name, params, body, doc?⟩)
  | .generator items, scope => do
    let serial ← Run.fresh
    Run.leave serial (← evalAll host items scope)
    return .generator serial
  | .dict entries, scope => do
    return .dict (← evalEntries host entries scope [])
  | .view mapping, scope => do
    readOnly (← mapping.eval host scope)
  | .list items, scope => do
    return .list (← evalAll host items scope)
  | .tuple items, scope => do
    return .tuple (← evalAll host items scope)
  | .set items, scope => do
    let vs ← evalAll host items scope
    vs.forM fun v => Run.lift v.hashed
    return .set vs
  | .binary op left right, scope => do
    let a ← left.eval host scope
    let b ← right.eval host scope
    settle (← Value.binary op a b)
  | .ratio left right, scope => do
    let a ← left.eval host scope
    let b ← right.eval host scope
    Value.ratioFrom a b
  | .item container key, scope => do
    let target ← container.eval host scope
    target.item (← key.eval host scope)
  | .setItem container key value, scope => do
    let target ← container.eval host scope
    let v ← value.eval host scope
    target.setItem (← key.eval host scope) v
  | .spread left right, scope => do
    let a ← spreadEntries (← left.eval host scope)
    let b ← spreadEntries (← right.eval host scope)
    return .dict (Entries.merge a b)
  | .typeName value, scope => do
    return .str (← value.eval host scope).typeName
  | .scopeEnv names, scope => do
    Bindings.scopeEnv (scopeValue scope) (← evalAll host names scope)
  | .partialEnv pairs, scope => do
    Bindings.partialEnv (.list (← evalPairs host pairs scope))
  | .keywordEnv names values, scope => do
    return Bindings.keywordEnv ((names.map .text).zip (← evalAll host values scope))
  | .call callee args, scope => do
    let callee ← callee.eval host scope
    callee.call host (← evalAll host args scope)
  | .run args steps, scope => do
    let args ← args.eval host scope
    host (.native .runPipeline) [args, .list (← evalAll host steps scope)]
  | .note label value, scope => do
    Run.emit (.note label)
    value.eval host scope
  | .raise category message, _ => Run.fail (.raised category message)
termination_by structural e => e

def evalAll (host : Host) : List Expr → Scope → Run (List Value)
  | [], _ => return []
  | e :: es, scope => do
    let v ← e.eval host scope
    return v :: (← evalAll host es scope)
termination_by structural es => es

-- Stores the value of each second expression under the value of the first.
def evalEntries (host : Host) : List (Expr × Expr) → Scope → Entries → Run Entries
  | [], _, entries => return entries
  | (key, value) :: rest, scope, entries => do
    let key ← key.eval host scope
    let v ← value.eval host scope
    key.hashed
    evalEntries host rest scope (entries.insert key v)
termination_by structural entries => entries

-- Tuples of the values of two expressions each.
def evalPairs (host : Host) : List (Expr × Expr) → Scope → Run (List Value)
  | [], _ => return []
  | (first, second) :: rest, scope => do
    let a ← first.eval host scope
    let b ← second.eval host scope
    return .tuple [a, b] :: (← evalPairs host rest scope)
termination_by structural pairs => pairs

def evalOption (host : Host) : Option Expr → Scope → Run (Option Value)
  | none, _ => return none
  | some e, scope => do return some (← e.eval host scope)
termination_by structural e? => e?

-- Parameters with the values of their defaults.
def evalParams (host : Host) : List (Param Expr) → Scope → Run Signature
  | [], _ => return []
  | ⟨name, mode, default?⟩ :: rest, scope => do
    let default? ← evalOption host default? scope
    return ⟨name, mode, default?⟩ :: (← evalParams host rest scope)
termination_by structural params => params

end

end StepFlow
