import StepFlow.Native.Operand
import StepFlow.Native.Signature

namespace StepFlow

namespace Registry

-- Registers the entries of a mapping with a registry, one after the other.
def registerEntries (self : Value) (registry : Registry) : Entries → Run Unit
  | [] => return ()
  | (name, step) :: entries => do
    let registry ← registry.register name step
    Run.keep self registry
    registerEntries self registry entries

-- Empties a registry and fills it from a mapping; nothing stands for an empty one.
def fill (self steps : Value) : Run Unit := do
  Run.keep self .empty
  if steps.truthy then
    match steps.entries? with
    | some entries => registerEntries self .empty entries
    | none => Run.fail (steps.lacksMapping "items")

-- A new registry with the steps of a mapping.
def make (steps : Value) : Run Value := do
  let self ← Run.identified .registry
  fill self steps
  return self

end Registry

namespace NativeType

def typeFault {α : Type} (message : String) : Run α :=
  Run.fail (.raised .type message)

-- The member that a value names; with names beside it a type with members cannot be extended.
def stepKindOf (value names : Value) : Run Value := do
  let shown ← Fault.met value.quotedForm
  match names with
  | .none =>
    match value.text?.bind StepKind.ofWord? with
    | some kind => return .kind kind
    | none => Run.fail (.value (.noMember shown NativeType.stepKind.name))
  | _ => typeFault s!"<enum {shown}> cannot extend {NativeType.stepKind.shown}"

-- Adds a member to those that a new type has; each name is used once.
def addMember (made : Entries) (name value : Value) : Run Entries := do
  let _ ← name.size
  match made.find? name with
  | none => return made ++ [(name, value)]
  | some first => typeFault s!"{name.shown} already defined as {first.shown}"

-- Adds a member that is given by a pair, or by a name under which its value is found.
def addMemberOf (names : Value) (made : Entries) (item : Value) : Run Entries := do
  if item.text?.isSome then addMember made item (← names.item item)
  else if !Run.isIterable item then
    typeFault s!"cannot unpack non-iterable {item.operandType} object"
  else
    match ← Run.itemsOf item with
    | [name, value] => addMember made name value
    | parts =>
      Run.fail (.raised .value (if parts.length < 2
        then s!"not enough values to unpack (expected 2, got {parts.length})"
        else "too many values to unpack (expected 2)"))

-- Numbers the members of a list of names.
def numberMembers (made : Entries) : List Value → Run Entries
  | [] => return made
  | name :: names => do numberMembers (← addMember made name (.int (made.length + 1))) names

-- The members of a new type: from a list of names or a text of them, else from a mapping or pairs.
def membersOf (names : Value) : Run Entries :=
  match names.text?, names.items? with
  | some text, _ =>
    let spaced := text.map fun c => if c = ',' || Text.isBlank c then ' ' else c
    numberMembers [] (((Text.split ' ' spaced).filter fun word => !word.isEmpty).map .str)
  | none, some (first :: rest) =>
    if first.text?.isSome then numberMembers [] (first :: rest)
    else Run.foldItems names (addMemberOf names) []
  | none, _ => Run.foldItems names (addMemberOf names) []

-- A type without members has none for any value; with names it makes a new type.
def enumerationOf (value names : Value) : Run Value :=
  match names with
  | .none => do
    let shown ← Fault.met value.quotedForm
    Run.fail (.value (.noMember shown NativeType.enumeration.name))
  | names => do
    let _ ← membersOf names
    match value.text? with
    | some name => return Attribute.found NativeType.enumeration.typeName name
    | none =>
      let given := if value matches .none then value.shown else value.typeName
      typeFault s!"type.__new__() argument 1 must be str, not {given}"

-- A path of parts below each other.
def pathOf (args : List Value) : Run Value := do
  let parts ← args.mapM fun v => Run.lift v.path
  return .record .path [.str (Path.join parts)] 0

-- Whether a value that is no mapping takes keys like one: texts, types with members and types with
-- parameters do.
def takesKeys (v : Value) : Bool :=
  match v with
  | .bytes _ | .callable (.native (.synonym _)) => true
  | .callable (.native (.type t)) => t.typeName = "EnumType"
  | v => v.text?.isSome || v.typeName = NativeType.readOnlyView.name

-- A view of what takes keys and is no mapping has nothing to show but that.
def viewOfOther (v : Value) : Run Value :=
  if takesKeys v then
    let name := NativeType.readOnlyView.name
    Run.identified fun serial => .object name (name ++ "(" ++ v.shown ++ ")") serial
  else readOnly v

-- The read-only view takes one argument and words a wrong number in its own way.
def viewOf : List Value → Run Value
  | [] => typeFault "mappingproxy() missing required argument 'mapping' (pos 1)"
  | [v] => if v.entries?.isSome then readOnly v else viewOfOther v
  | args => typeFault s!"mappingproxy() takes at most 1 argument ({args.length} given)"

-- A type that takes no arguments, and has instances only if it leaves no operation open.
def instanceOf (t : NativeType) (args : List Value) : Run Value :=
  if !args.isEmpty then typeFault s!"{t.name}() takes no arguments"
  else
    match t.openOperations with
    | [] => Run.identified fun serial => .record t [] serial
    | [one] => typeFault s!"Can't instantiate abstract class {t.name} with abstract method {one}"
    | several =>
      typeFault (s!"Can't instantiate abstract class {t.name} with abstract methods " ++
        commaJoined several)

-- The fields of a record from bound arguments, with their names.
def fieldsOf (t : NativeType) (scope : Signature.Scope) : List (String × Value) :=
  t.fieldNames.map fun name =>
    match scope.lookup name with
    | some (.object "_HAS_DEFAULT_FACTORY_CLASS" _ _) => (name, .tuple [])
    | some v => (name, v)
    | none => (name, .none)

-- Gives a value the fields of a record, even one that is frozen otherwise.
def giveFields (t : NativeType) (self : Value) (scope : Signature.Scope) : Run Value := do
  (t.fieldsOf scope).forM fun (name, v) => do
    if t = .deck then self.takeField name else self.takeAttribute name
    Run.give self name v
  return .none

-- Gives an error what it has beside its message. Nothing else can be made one afterwards.
def giveCause (category : Category) (self : Value) (scope : Signature.Scope) : Run Value :=
  let refused : Run Value :=
    typeFault "super(type, obj): obj must be an instance or subtype of type"
  let message := (scope.lookup "message").getD .none
  match self with
  | .record (.error own) _ _ =>
    if own.isOf category then do
      (scope.drop 2).forM fun (name, v) => Run.give self name v
      return .none
    else refused
  | .callable (.native (.type (.error own))) =>
    if own.isOf category then
      typeFault (s!"descriptor '__init__' requires a '{Category.value.className}' object " ++
        s!"but received a '{message.operandType}'")
    else refused
  | .none => typeFault s!"super() argument 1 must be type, not {message.operandType}"
  | _ => refused

-- Makes a value what an instance of a type is when it is made.
def initialise (t : NativeType) (scope : Signature.Scope) : Run Value :=
  let self := (scope.lookup "self").getD .none
  match t with
  | .error category => giveCause category self scope
  | t => t.giveFields self scope

-- An instance made from bound arguments.
def ofScope (t : NativeType) (scope : Signature.Scope) : Run Value :=
  let arg (name : String) : Value := (scope.lookup name).getD .none
  match t with
  | .registry => Registry.make (arg "steps")
  | .stepKind => stepKindOf (arg "value") (arg "names")
  | .enumeration => enumerationOf (arg "value") (arg "names")
  | .ratio => Value.ratioFrom (arg "numerator") (arg "denominator")
  | .error category => Run.identified fun serial => .record (.error category) [arg "message"] serial
  | t => return .record t ((t.fieldsOf scope).map Prod.snd) 0

-- Calls a type.
def construct (t : NativeType) (args : List Value) : Run Value :=
  match t.constructor? with
  | some (function, sig) => do
    t.ofScope (← Signature.bind function sig (.callable (.native (.type t)) :: args))
  | none =>
    match t with
    | .error category => Run.identified fun serial => .record (.error category) args serial
    | .path => pathOf args
    | .readOnlyView => viewOf args
    | .anything => typeFault s!"{t.name} cannot be instantiated"
    | t => t.instanceOf args

end NativeType

end StepFlow
