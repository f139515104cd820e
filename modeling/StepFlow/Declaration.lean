import StepFlow.Require
import StepFlow.Native.Doc
import StepFlow.Native.Signature
import StepFlow.Value.Lacking

namespace StepFlow

namespace Declaration

variable {ν γ : Type}

-- The signature that a declared step shows: an input step takes its parameters by position, the
-- others take the environment.
def signature (d : Declaration ν γ) : Signature :=
  match d.kind with
  | .input =>
    d.fixed.map Signature.plainParam ++
      d.rest?.toList.map fun (rest : String) => Signature.variadicParam rest
  | _ => [Signature.plainParam "env"]

-- The parameters as they are declared, the variadic one with its star.
def params (d : Declaration ν γ) : List Name :=
  d.fixed ++ d.rest?.toList.map fun rest => .text ("*" ++ rest)

-- The signature as text; a slash ends the parameters taken by position only.
def signatureText (d : Declaration ν γ) : String :=
  let sig := d.signature
  let positional := sig.positional.map (·.name.word)
  let slash := if positional.isEmpty then [] else ["/"]
  let variadic := (sig.filter fun p => p.mode == .variadic).map ("*" ++ ·.name.word)
  "(" ++ commaJoined (positional ++ slash ++ variadic) ++ ")"

end Declaration

namespace Callable

-- The parameters that can be read off a callable, if any can.
def signature? : Callable → Option Signature
  | .function _ code => some (Signature.seen code.params)
  | .shell _ _ _ _ introspectable code =>
    if introspectable then some (Signature.seen code.params) else none
  | .step _ d => some d.signature
  | .composed .. => some [Signature.variadicParam "args"]
  | .native operation => operation.signature?
  | .bound _ operation => operation.signature?.map (·.drop 1)

-- The name attribute of a callable; only an object can lack one.
def name? : Callable → Option Value
  | .function _ code => some (.str code.name)
  | .shell _ _ name? _ _ _ => name?
  | .step _ d => some (.ofName d.name)
  | .composed _ name _ _ => some (.str name)
  | .native operation | .bound _ operation => some (.str operation.name)

def textOrNone (text? : Option String) : Value :=
  (text?.map Value.str).getD .none

def doc : Callable → Value
  | .function _ code => textOrNone code.doc?
  | .shell _ _ _ _ _ code => textOrNone code.doc?
  | .step _ d => d.doc
  | .composed .. => .none
  | .native operation | .bound _ operation => textOrNone operation.doc?

end Callable

namespace Declaration

-- A declared parameter: one of the fixed ones, or the variadic one.
inductive Slot where
  | fixed (name : Name)
  | rest (name : String)

def slot (kind : StepKind) (context : String) (index : Nat) (last : Bool) (v : Value) :
    Except Unmet Slot :=
  let named (v : Value) : Except Unmet Name := Require.identifier v s!"{context}[{index}]"
  match v with
  | .str s =>
    match s.toList with
    | '*' :: cs =>
      if kind ≠ .input then .error (.variadicKind context s)
      else if !last then .error (.variadicLast context s)
      else (named (.str (String.ofList cs))).map fun name => .rest name.word
    | _ => (named v).map .fixed
  | v => (named v).map .fixed

-- Splits declared parameters into the fixed names and the variadic one.
def slots (kind : StepKind) (context : String) (index : Nat) :
    List Value → Except Unmet (List Name × Option String)
  | [] => .ok ([], none)
  | v :: vs => do
    match ← slot kind context index vs.isEmpty v with
    | .rest name => return ([], some name)
    | .fixed name =>
      let (fixed, rest?) ← slots kind context (index + 1) vs
      return (name :: fixed, rest?)

def parseParams (kind : StepKind) (name : String) (params : Value) :
    Except Unmet (List Name × Option String) := do
  let context := s!"step '{name}' params"
  let items ← Require.list params context true
  let (fixed, rest?) ← slots kind context 0 items
  Require.distinct (fixed ++ rest?.toList.map .text) context
  return (fixed, rest?)

-- A step's name is a non-empty text.
def checkName (v : Value) : Except Fault Name :=
  match v.name? with
  | some name =>
    if name.word.isEmpty then .error (.declaration (.name name.quoted) .none) else .ok name
  | none => do .error (.declaration (.name (← Fault.met v.quotedForm)) .none)

-- A step's body is a callable that takes the fixed parameters, as far as its signature can be
-- read.
def checkBody (name : Name) (body : Value) (count : Nat) : Except Fault Callable :=
  match body.callable? with
  | none => do
    let shown ← Fault.met body.quotedForm
    .error (.declaration (.bodyNotCallable name.plain shown) (.ofName name))
  | some c =>
    match c.signature? with
    | none => .ok c
    | some sig =>
      match sig.check count with
      | .ok () => .ok c
      | .error cause =>
        .error (.declaration (.bodyArity name.plain (toString count) cause) (.ofName name))

-- Declares a step of a kind from its name, its parameters and its body. Without documentation
-- of its own the step has that of its body.
def declare (kind : StepKind) (name params body doc : Value) :
    Except Fault (Declaration Value Callable) := do
  let name ← checkName name
  let (fixed, rest?) ← (parseParams kind name.plain params).mapError fun cause =>
    .declaration (.params kind name.plain cause) (.ofName name)
  let body ← checkBody name body fixed.length
  let doc := match doc with
    | .none => body.doc
    | doc => doc
  return ⟨kind, name, fixed, rest?, body, doc⟩

-- The declared parameters of a function; those that are not taken by position cannot be
-- declared.
def readParams (kind : StepKind) (name : Name) : Signature → Except Fault (List Value)
  | [] => .ok []
  | p :: ps =>
    match p.mode with
    | .positionalOnly | .positionalOrKeyword => do
      return .ofName p.name :: (← readParams kind name ps)
    | .variadic => do
      return .str ("*" ++ p.name.plain) :: (← readParams kind name ps)
    | .keywordOnly | .keywords =>
      .error (.declaration (.notPositional kind name.plain p.name.plain) (.ofName name))

-- The name of a function and its declared parameters.
def read (kind : StepKind) (fn : Value) : Except Fault (Name × List Value) :=
  match fn.callable? with
  | none => do .error (.declaration (.notFunction kind (← Fault.met fn.quotedForm)) .none)
  | some c => do
    let name ← checkName (c.name?.getD .none)
    match c.signature? with
    | none => .error (.declaration (.noSignature name.plain) (.ofName name))
    | some sig => return (name, ← readParams kind name sig)

-- Reads a declaration off a function: its name and its parameters, with itself as the body.
def ofFunction (kind : StepKind) (fn : Value) : Except Fault (Declaration Value Callable) := do
  let (name, params) ← read kind fn
  declare kind (.ofName name) (.list params) fn .none

-- The declaration of a step. Any other value lacks one of the attributes that steps have.
def ofStep (v : Value) : Except Fault (Declaration Value Callable) :=
  match v with
  | .callable (.step _ d) => .ok d
  | .callable (.shell _ _ none _ _ _) => .error (v.lacks "__name__")
  | .callable (.shell _ _ (some _) (some _) _ _) => .error (v.lacks "step_kind")
  | .callable _ | .generator _ => .error (v.lacks "step_name")
  | v => .error (v.lacks "__name__")

-- The default of the body for each of the first `count` parameters.
def bodyDefaults (body : Callable) (count : Nat) : List (Option Value) :=
  match body.signature? with
  | none => []
  | some sig => (sig.positional.take count).map (·.default?)

-- The fewest arguments an input step takes: those before the first default of its body.
def minimum (d : Declaration Value Callable) : Nat :=
  ((bodyDefaults d.body d.fixed.length).findIdx? Option.isSome).getD d.fixed.length

-- How many arguments an input step says it takes.
def expected (d : Declaration Value Callable) : Expected :=
  if d.rest?.isSome then .atLeast d.minimum
  else if d.minimum < d.fixed.length then .between d.minimum d.fixed.length
  else .exactly d.fixed.length

-- Whether an input step takes a number of arguments.
def takes (d : Declaration Value Callable) (count : Nat) : Bool :=
  d.minimum ≤ count && (d.rest?.isSome || count ≤ d.fixed.length)

-- The values that the body of an environment-reading step is called with: the environment's
-- value of each name, else the body's default at that place, else nothing.
def bindNames (env : Entries) : List Name → List (Option Value) → List Value
  | [], _ => []
  | name :: names, defaults =>
    ((env.get? name.word).getD ((defaults.head?.bind id).getD .none)) ::
      bindNames env names defaults.tail

end Declaration

end StepFlow
