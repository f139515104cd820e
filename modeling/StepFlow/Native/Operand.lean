import StepFlow.Call
import StepFlow.Run.Attribute

namespace StepFlow

namespace Value

-- Calls what a value has under a name.
def invoke (host : Host) (v : Value) (name : String) (args : List Value) : Run Value := do
  call host (← v.getAttribute name) args

-- How many items a value with items of its own has.
def size? (v : Value) : Option Nat :=
  match v with
  | .generator _ | .callable (.native (.synonym _)) => Option.none
  | v => v.iterate?.map List.length

def size (v : Value) : Except Fault Nat :=
  match v.size? with
  | some n => .ok n
  | Option.none => .error (.raised .type s!"object of type '{v.operandType}' has no len()")

-- The text of a value as a path or as a part of one.
def path (v : Value) : Except Fault String :=
  match v.pathText?, v with
  | some text, _ => .ok text
  | Option.none, .bytes _ =>
    .error (.raised .type ("argument should be a str object or an os.PathLike object " ++
      "returning str, not <class 'bytes'>"))
  | Option.none, v =>
    .error (.raised .type s!"expected str, bytes or os.PathLike object, not {v.typeName}")

end Value

end StepFlow
