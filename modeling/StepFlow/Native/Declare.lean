import StepFlow.Native.Operand

namespace StepFlow.Native.Declare

-- The kind of step that a complaint names.
def kindNamed (kind : Value) : Except Fault StepKind :=
  match kind with
  | .kind k => .ok k
  | kind => .error (kind.lacks "value")

def parseParams (name params kind : Value) : Except Fault Value := do
  let shown ← Fault.met name.plainForm
  let parsedAs : StepKind := if kind matches .kind .input then .input else .intermediate
  match Declaration.parseParams parsedAs shown params with
  | .ok (fixed, rest?) =>
    return .tuple [.tuple (fixed.map .ofName), Callable.textOrNone rest?]
  | .error cause => do .error (.declaration (.params (← kindNamed kind) shown cause) name)

-- The defaults of the first parameters of a body. A negative count leaves out the last ones.
def defaultsOf (sig : Signature) (count : Int) : Value :=
  let positional := sig.positional
  let taken := if 0 ≤ count then count.toNat else (positional.length + count).toNat
  .tuple ((positional.take taken).map fun p => p.default?.getD missing)

def bodyDefaults (name body count : Value) : Except Fault Value := do
  match body.callable?, body.callable?.bind Callable.signature? with
  | none, _ => do
    let shown ← Fault.met name.plainForm
    .error (.declaration (.bodyNotCallable shown (← Fault.met body.quotedForm)) name)
  | some _, none => return .tuple []
  | some _, some sig => do
    match count.index? with
    | none => do
      let shown ← Fault.met name.plainForm
      let shownCount ← Fault.met count.plainForm
      .error (.declaration (.bodyCount shown shownCount count.operandType) name)
    | some n => do
      if !Value.fitsIndex n then .error (.tooLarge .index)
      if repetitionLimit < n.toNat then .error .memory
      match sig.check n.toNat with
      | .ok () => return defaultsOf sig n
      | .error cause => do
        let shown ← Fault.met name.plainForm
        .error (.declaration (.bodyArity shown (← Fault.met count.plainForm) cause) name)

-- The value that a body is called with at a place: that of a name in the environment, else the
-- default there.
def bindName (env : Entries) (defaults : Value) (place : Nat) (name : Value) :
    Except Fault Value := do
  name.hashed
  match Entries.find? env name with
  | some v => return v
  | none =>
    if place < (← defaults.size) then
      let default ← defaults.item (.int place)
      return if default.isMissing then .none else default
    else return .none

def bindNames (env name kind params defaults : Value) : Run Value := do
  match env.entries? with
  | none => do
    let kind ← kindNamed kind
    let _ ← Fault.met name.plainForm
    Run.fail (.contract .expectsEnvironment kind name env.typeName)
  | some entries =>
    let bindNext (bound : Nat × List Value) (name : Value) : Run (Nat × List Value) := do
      return (bound.1 + 1, (← bindName entries defaults bound.1 name) :: bound.2)
    return .list (← Run.foldItems params bindNext (0, [])).2.reverse

def readDeclaration (fn kind : Value) : Except Fault Value :=
  let parsedAs : StepKind :=
    match kind with
    | .kind k => k
    | _ => .input
  match Declaration.read parsedAs fn with
  | .ok (name, params) => .ok (.tuple [.ofName name, .list params])
  | .error (.declaration (.notFunction _ shown) step) => do
    .error (.declaration (.notFunction (← kindNamed kind) shown) step)
  | .error (.declaration (.notPositional _ step param) name) => do
    .error (.declaration (.notPositional (← kindNamed kind) step param) name)
  | .error fault => .error fault

end StepFlow.Native.Declare
