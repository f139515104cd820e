import StepFlow.Fault

namespace StepFlow.Value

-- Where an attribute of a value is looked for: types are named themselves,
-- an operation that is bound to a value passes on what it has without it, and all else goes by its
-- type.
def holder (v : Value) : Holder :=
  match v with
  | .callable (.native (.type t)) =>
    if t.typeName = "EnumType" then .bare else .type t.name
  | .callable (.native (.synonym s)) => .type s.origin.name
  | .callable (.native (.other name "type")) => .type name
  | .callable (.bound self operation) =>
    let typeName := (Callable.bound self operation).typeName
    .object (if typeName = "method" then "function" else typeName)
  | v => .object v.typeName

-- That a value has no attribute of a name.
def lacks (v : Value) (field : String) : Fault :=
  .attributeAbsent v.holder field

-- The type of mappings that a value is or fills in.
def mappingType? (v : Value) : Option NativeType :=
  let type? :=
    match v with
    | .callable (.native (.type t)) => some t
    | .callable (.native (.synonym s)) => some s.origin
    | _ => Option.none
  type?.filter NativeType.isMapping

-- That a value is no mapping on which `get` is used with a key, or another operation of mappings
-- with nothing. A type of mappings has the operation, but lacks the mapping to use it on.
def lacksMapping (v : Value) (operation : String) : Fault :=
  match v.mappingType?, operation with
  | some .readOnlyView, "get" =>
    .raised .type "descriptor 'get' for 'mappingproxy' objects doesn't apply to a 'str' object"
  | some .readOnlyView, operation =>
    .raised .type s!"unbound method mappingproxy.{operation}() needs an argument"
  | some _, "get" => .arity (.missing "Mapping.get" ["key"])
  | some _, operation => .arity (.missing s!"Mapping.{operation}" ["self"])
  | Option.none, operation => v.lacks operation

-- Types of things that can be given attributes.
def openTypes : List String :=
  ["Obj", "ArgumentParser", "Logger", "function", "type", "ABCMeta", "EnumType"]

-- Whether a value can be given an attribute. What is written in the library's own terms can, but a
-- parsed deck is frozen.
def takeAttribute (v : Value) (field : String) : Except Fault Unit :=
  let refused : Except Fault Unit := .error (.attributeAbsent (.object v.operandType) field)
  match v with
  | .registry _ => .ok ()
  | .kind _ =>
    if ["name", "value"].contains field then .error (.raised .attribute
      s!"{NativeType.enumeration.shown} cannot set attribute '{field}'")
    else .ok ()
  | .object typeName _ _ => if openTypes.contains typeName then .ok () else refused
  | .record .deck _ _ => .error (.raised .frozen s!"cannot assign to field '{field}'")
  | .record .path _ _ =>
    if field = "name" then .error (.raised .attribute
      s!"property '{field}' of '{v.typeName}' object has no setter")
    else refused
  | .record .. => .ok ()
  | .callable (.native (.type .readOnlyView)) => .error (.raised .type
      s!"cannot set '{field}' attribute of immutable type '{NativeType.readOnlyView.name}'")
  | .callable (.native (.type _)) => .ok ()
  | .callable (.native (.synonym s)) =>
    if ["_GenericAlias", "_SpecialGenericAlias"].contains s.typeName then .ok () else refused
  | .callable (.shell ..) => .ok ()
  | .callable c => if openTypes.contains c.typeName then .ok () else refused
  | _ => refused

-- Whether a value is a type.
def isType : Value → Bool
  | .callable (.native (.synonym _)) => false
  | .callable (.native operation) => operation matches .type _ || operation.typeName = "type"
  | _ => false

-- Whether a value can be given a field of a frozen record as it is when the record is made. Types
-- cannot be made one.
def takeField (v : Value) (field : String) : Except Fault Unit :=
  if v.isType then
    .error (.raised .type s!"can't apply this __setattr__ to {v.typeName} object")
  else if v matches .record .deck .. then .ok ()
  else v.takeAttribute field

end StepFlow.Value
