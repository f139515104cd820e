import StepFlow.Declaration
import StepFlow.Attribute.Members
import StepFlow.Value.Lacking

namespace StepFlow

namespace Attribute

-- An operation that can be found but not used.
def found (typeName name : String) : Value :=
  .callable (.native (.other name typeName))

-- A thing of which only the type is known.
def thing (typeName : String) : Value :=
  match typeName with
  | "NoneType" => .none
  | "bool" => .bool false
  | "int" => .int 0
  | "float" => .float 0
  | "Fraction" => .ratio 0
  | "str" => .str ""
  | "list" => .list []
  | "tuple" => .tuple []
  | "dict" => .dict []
  | "mappingproxy" => .view 0 []
  | typeName => .object typeName typeName 0

-- What is offered under a name beside operations.
def thing? (members : Members) (name : String) : Option Value :=
  (members.things.find? fun entry => entry.2.contains name).map fun entry => thing entry.1

-- What is offered under a name.
def member? (members : Members) (name : String) : Option Value :=
  if members.operations.contains name then some (found "function" name)
  else thing? members name

-- What a value offers under a name. Its operations are bound to it.
def memberOf? (v : Value) (name : String) : Option Value :=
  if v.members.operations.contains name then
    some (.callable (.bound v (.other name (v.operationType name))))
  else thing? v.members name

-- Whether the type of a value belongs to a module, which the value then shows as its own.
def isDefined : Value → Bool
  | .ratio _ | .kind _ | .registry _ | .object .. => true
  | .record (.error category) _ _ => category.isPipeline
  | .record .. => true
  | .callable (.shell ..) => true
  | _ => false

-- What every value can do.
def wrapped : List String :=
  ["__delattr__", "__eq__", "__ge__", "__getattribute__", "__gt__", "__hash__", "__init__",
    "__le__", "__lt__", "__ne__", "__repr__", "__setattr__", "__str__"]

def builtIn : List String :=
  ["__dir__", "__format__", "__getstate__", "__init_subclass__", "__new__", "__reduce__",
    "__reduce_ex__", "__sizeof__", "__subclasshook__"]

def common? (v : Value) (name : String) : Option Value :=
  if name = "__class__" then some (found "type" v.typeName)
  else if wrapped.contains name then some (.callable (.bound v (.other name "method-wrapper")))
  else if builtIn.contains name then
    some (.callable (.bound v (.other name "builtin_function_or_method")))
  else if name = "__doc__" then some (match v with
    | .none | .view .. | .object .. | .record .. | .generator _ => .none
    | _ => .str "")
  else if name = "__module__" && isDefined v then some (.str "")
  else none

end Attribute

open Attribute

-- The operations that the registries have beside being filled.
def registryMethods : List Native :=
  [.normalForm, .register, .resolve, .supportedNames, .resolveRef]

-- An operation of a registry, bound to it if the registry is its first argument.
def registryMethod (self : Value) (operation : Native) : Callable :=
  match operation with
  | .normalForm => .native .normalForm
  | operation => .bound self operation

namespace NativeType

-- What gives the instances of a type their fields, if it is an operation of the library.
def initialiser? (t : NativeType) : Option Native :=
  match t with
  | .registry | .deck | .checkRow | .checkReport | .error .contract | .error .declaration =>
    some (.initialise t)
  | .error .argumentShape => some (.initialise (.error .contract))
  | _ => none

-- The attributes that a type itself has beside what gives its instances their fields.
def further? (t : NativeType) (name : String) : Option Value :=
  match t with
  | .registry =>
    (registryMethods.find? fun operation => operation.name = name).map fun operation =>
      .callable (.native operation)
  | .stepKind =>
    (StepKind.all.find? fun kind => kind.label = name).map .kind
  | .checkReport =>
    if name = "to_text" then some (.callable (.native .reportText))
    else if name = "ok" then some (thing "property")
    else none
  | _ => none

-- The attributes of a type itself.
def attribute? (t : NativeType) (name : String) : Option Value :=
  if name = "__init__" then t.initialiser?.map fun operation => .callable (.native operation)
  else t.further? name

-- The name of the type that a type extends.
def base (t : NativeType) : String :=
  match t with
  | .stepKind => "str"
  | .error .pipeline => "ValueError"
  | .error .argumentShape => "ContractViolation"
  | .error _ => "PipelineError"
  | .ratio => "Rational"
  | .path => "PurePath"
  | .mapping => "Collection"
  | .mutableMapping => NativeType.mapping.name
  | .sequence => "Reversible"
  | _ => "object"

-- What a type shows of itself, apart from what it has of its own.
def shown? (t : NativeType) (name : String) : Option Value :=
  if name = "__base__" then some (found "type" t.base)
  else if name = "__class_getitem__" && !t.openOperations.isEmpty then
    some (found "type" (if t = .callable then "_CallableGenericAlias" else "GenericAlias"))
  else member? t.members name

end NativeType

namespace TypeSynonym

-- What a type with parameters shows. It passes on what its type has.
def attribute? (s : TypeSynonym) (name : String) : Option Value :=
  if name = "__origin__" then some (.callable (.native (.type s.origin)))
  else if ["__args__", "__parameters__"].contains name && s.isFilled then some (.tuple [])
  else if name = "__unpacked__" && s.isFilled then some (.bool false)
  else member? Members.synonym name <|> s.origin.attribute? name <|> s.origin.shown? name

end TypeSynonym

-- What two types that describe parameters name as the default of those without one.
def Native.default? (operation : Native) (name : String) : Option Value :=
  if ["Parameter", "Signature"].contains operation.name && name = "empty" then some Native.missing
  else none

-- What a function of the given parameters shows of itself: their defaults, if there are any, and
-- whether it captures what was around it.
def Signature.shownOf? (sig : Signature) (captures : Bool) (name : String) : Option Value :=
  let defaults (params : Signature) : List (Value × Value) :=
    params.filterMap fun p => p.default?.map fun default => (.ofName p.name, default)
  match name, defaults sig.positional, defaults sig.keywordOnly with
  | "__defaults__", first :: rest, _ => some (.tuple ((first :: rest).map Prod.snd))
  | "__kwdefaults__", _, first :: rest => some (.dict (first :: rest))
  | "__closure__", _, _ => some (if captures then .tuple [] else .none)
  | "__get__", _, _ => some (found "method-wrapper" name)
  | name, _, _ => member? Members.function name

namespace Callable

-- The attributes that a callable has of its own.
def own? (c : Callable) (name : String) : Option Value :=
  match c with
  | .step _ d =>
    if name = "body" || name = "__wrapped__" then some (.callable d.body)
    else if name = "step_kind" then some (.kind d.kind)
    else if name = "__signature__" then some (.object "Signature" d.signatureText 0)
    else if name = "step_name" || name = "__qualname__" then some (.ofName d.name)
    else if name = "step_params" then some (.tuple (d.params.map .ofName))
    else Signature.shownOf? [] true name
  | .shell _ _ _ stepName? _ _ =>
    if name = "step_name" then stepName? else none
  | .composed _ _ first rest =>
    if name = "steps" then some (.tuple ((first :: rest).map .callable))
    else Signature.shownOf? [] true name
  | .function _ code => Signature.shownOf? code.params false name
  | .bound self operation =>
    if name = "__self__" then some self
    else if (Callable.bound self operation).typeName = "method" then
      if name = "__func__" then some (.callable (.native operation))
      else Signature.shownOf? (operation.signature?.getD []) false name
    else member? (Members.builtIn operation.typeName) name
  | .native (.type t) => t.attribute? name <|> t.shown? name
  | .native (.synonym s) => s.attribute? name
  | .native operation =>
    if operation.typeName = "type" then operation.default? name <|> member? Members.type name
    else if operation.typeName = "function" then
      Signature.shownOf? (operation.signature?.getD []) false name
    else member? (Members.builtIn operation.typeName) name

def attribute? (c : Callable) (name : String) : Option Value :=
  if name = "__name__" then c.name?
  else if name = "__doc__" then some c.doc
  else if name = "__call__" then some (.callable (.bound (.callable c) .invoke))
  else c.own? name <|> common? (.callable c) name

end Callable

namespace Value

-- The rows of a report all hold; a row is asked for its `ok`.
def isOk (row : Value) : Bool :=
  match row with
  | .record .checkRow [_, ok, _] _ => ok.truthy
  | _ => false

-- The attributes that records have beside their fields.
def recordExtra? (self : Value) (type : NativeType) (fields : List Value) (name : String) :
    Option Value :=
  match type with
  | .checkReport =>
    if name = "to_text" then some (.callable (.bound self .reportText))
    else if name = "ok" then
      some (.bool (((fields.head?.bind items?).getD []).all isOk))
    else Option.none
  | .error category =>
    if name = "args" then some (.tuple fields)
    else if name = "step_name" && [.contract, .argumentShape, .declaration].contains category ||
        name = "kind" && [.contract, .argumentShape].contains category then some .none
    else Option.none
  | .path => if name = "name" then some (.str "") else Option.none
  | _ => Option.none

-- What gives a value its fields, bound to it, if it is an operation of the library.
def initialiser? (v : Value) : Option Value :=
  let operation? :=
    match v with
    | .registry _ => NativeType.registry.initialiser?
    | .record type _ _ => type.initialiser?
    | _ => Option.none
  operation?.map fun operation => .callable (.bound v operation)

-- An attribute of a value, if it has one of the name.
def attribute? (v : Value) (name : String) : Option Value :=
  match v with
  | .callable c => c.attribute? name
  | v =>
    let own? : Option Value :=
      match v with
      | .kind k =>
        if name = "value" then some (.str k.word)
        else if name = "name" then some (.str k.label)
        else (StepKind.all.find? fun other => other.label = name).map .kind
      | .registry _ =>
        if name = "_steps" then some (.dict [])
        else (registryMethods.find? fun operation => operation.name = name).map fun operation =>
          .callable (registryMethod v operation)
      | .generator _ =>
        if name = "__name__" then some (.str generatorName)
        else (GeneratorRequest.all.find? fun request => request.name = name).map fun request =>
          .callable (.bound v (.ofGenerator request))
      | .record type fields _ =>
        (type.fieldNames.zip fields).lookup name <|> v.recordExtra? type fields name
      | _ => Option.none
    (if name = "__init__" then v.initialiser? else own?) <|> memberOf? v name <|>
      common? v name

end Value

end StepFlow
