import StepFlow.Fault

namespace StepFlow.Value

-- A type with parameters, which are shown one after the other.
def applied (origin : NativeType) (typeName name : String) (parameters : List String) : Value :=
  let inside := if parameters.isEmpty then "()" else commaJoined parameters
  .callable (.native (.synonym (.applied origin typeName (name ++ "[" ++ inside ++ "]"))))

-- The parameters that a key gives to a type: a tuple gives each of its items.
def parameters : Value → List Value
  | .tuple items => items
  | key => [key]

-- The type of callables takes the list of what they are called with, and what they return.
def appliedCallable (key : Value) : Except Fault Value :=
  match key.parameters with
  | [arguments, result] =>
    match arguments.items? with
    | some items =>
      .ok (applied .callable "_CallableGenericAlias" NativeType.callable.fullName
        ["[" ++ commaJoined (items.map shown) ++ "]", result.shown])
    | Option.none => .error (.raised .type
        ("Expected a list of types, an ellipsis, ParamSpec, or Concatenate. Got " ++
          arguments.plain))
  | _ => .error (.raised .type "Callable must be used as Callable[[arg, ...], result].")

-- A parameter of a generic type; a text refers to a type that comes later.
def shownParameter (parameter : Value) : String :=
  match parameter with
  | .none => "NoneType"
  | .str s => s!"ForwardRef({Text.quoted s})"
  | parameter => parameter.shown

-- Whether a value is a tuple.
def isTuple : Value → Bool
  | .tuple _ => true
  | _ => false

-- A generic type takes as many parameters as it was made for, and no tuple is one of them.
def appliedGeneric (origin : NativeType) (expected : Nat) (key : Value) : Except Fault Value :=
  let given := key.parameters
  let name := s!"typing.{origin.name}"
  if given.length ≠ expected then
    let amount := if given.length < expected then "few" else "many"
    .error (.raised .type
      s!"Too {amount} arguments for {name}; actual {given.length}, expected {expected}")
  else
    match given.find? isTuple with
    | some found => .error (.raised .type
        s!"Parameters to generic types must be types. Got {found.shown}.")
    | Option.none => .ok (applied origin "_GenericAlias" name (given.map shownParameter))

-- What taking a key from a value without items comes to: a type that takes parameters with the
-- key for them, or a fault.
def parametrized (v key : Value) : Except Fault Value :=
  match v with
  | .callable (.native (.synonym .genericMapping)) => appliedGeneric .mapping 2 key
  | .callable (.native (.synonym .genericSequence)) => appliedGeneric .sequence 1 key
  | .callable (.native (.synonym s)) =>
    .error (.raised .type s!"{s.shown} is not a generic class")
  | .callable (.native (.type .callable)) => key.appliedCallable
  | .callable (.native (.type t)) =>
    if t.takesParameters then
      .ok (applied t "GenericAlias" t.fullName (key.parameters.map shown))
    else .error (.type (.typeNotSubscriptable t.name))
  | v => .error (.type (.notSubscriptable v.operandType))

end StepFlow.Value
