import StepFlow.StepKind
import StepFlow.Fault.Category

namespace StepFlow

-- Types. The classes of errors among them are those of the library. `missing` is the type that
-- stands for a default that a parameter does not have.
inductive NativeType where
  | registry
  | stepKind
  | deck
  | checkRow
  | checkReport
  | error (category : Category)
  | ratio
  | readOnlyView
  | path
  | mapping
  | mutableMapping
  | sequence
  | iterable
  | callable
  | anything
  | enumeration
  | missing
deriving DecidableEq, Repr

-- Names for types with their parameters filled in or left out. `applied` is a type with any
-- parameters, given by what its own type is called and by how it is shown.
inductive TypeSynonym where
  | environment
  | inputStep
  | intermediateStep
  | outputStep
  | step
  | genericMapping
  | genericSequence
  | applied (origin : NativeType) (typeName shown : String)
deriving DecidableEq, Repr

-- What a generator can be asked for: itself, its next item, or to end.
inductive GeneratorRequest where
  | itself
  | next
  | close
deriving DecidableEq, Repr

-- Operations and types that can be named and called. `other` can be found by name, but not used
-- as a step.
inductive Native where
  | runPipeline
  | compose
  | snapshot
  | checkSteps
  | define (kind : StepKind)
  | decorate (kind : StepKind)
  | checkName
  | parseParams
  | bodyDefaults
  | bindNames
  | finishStep
  | readDeclaration
  | displayName
  | partialEnv
  | keywordEnv
  | scopeEnv
  | bindingName
  | asMapping
  | asList
  | required
  | ensureIdentifier
  | ensureUnique
  | parseSteps
  | parseArgs
  | parseDeck
  | loadDeck
  | resolveSteps
  | runDeckData
  | runDeck
  | createRegistry
  | defaultRegistry
  | invoke
  | initialise (t : NativeType)
  | normalForm
  | register
  | resolve
  | supportedNames
  | resolveRef
  | yamlLoad
  | yamlScalar
  | buildParser
  | main
  | selfCheck
  | reportText
  | isKeyword (soft : Bool)
  | reduce
  | dataclass
  | field
  | ofGenerator (request : GeneratorRequest)
  | type (t : NativeType)
  | synonym (s : TypeSynonym)
  | other (name typeName : String)
deriving DecidableEq, Repr

namespace NativeType

def name : NativeType → String
  | .registry => "StepRegistry"
  | .stepKind => "StepKind"
  | .deck => "PipelineDeck"
  | .checkRow => "CheckRow"
  | .checkReport => "SelfCheckReport"
  | .error category => category.className
  | .ratio => "Fraction"
  | .readOnlyView => "mappingproxy"
  | .path => "Path"
  | .mapping => "Mapping"
  | .mutableMapping => "MutableMapping"
  | .sequence => "Sequence"
  | .iterable => "Iterable"
  | .callable => "Callable"
  | .anything => "Any"
  | .enumeration => "Enum"
  | .missing => "_empty"

-- The name of the type of a type.
def typeName : NativeType → String
  | .stepKind | .enumeration => "EnumType"
  | .ratio | .mapping | .mutableMapping | .sequence | .iterable | .callable => "ABCMeta"
  | .anything => "_AnyMeta"
  | _ => "type"

-- The module that a type is defined in; none where its name stands alone.
def home? : NativeType → Option String
  | .registry => some "envpipe.pipeline.registry"
  | .deck => some "envpipe.config.deck_models"
  | .checkRow | .checkReport => some "envpipe.selfcheck"
  | .error category => if category.isPipeline then some "envpipe.errors" else none
  | .ratio => some "fractions"
  | .path => some "pathlib"
  | .mapping | .mutableMapping | .sequence | .iterable | .callable => some "collections.abc"
  | .missing => some "inspect"
  | _ => none

-- Whether the instances of a type are mappings.
def isMapping : NativeType → Bool
  | .mapping | .mutableMapping | .readOnlyView => true
  | _ => false

-- Whether a type takes parameters, in any number.
def takesParameters : NativeType → Bool
  | .readOnlyView | .mapping | .mutableMapping | .sequence | .iterable => true
  | _ => false

-- The name with that of the module in front, if there is one.
def fullName (t : NativeType) : String :=
  (t.home?.map (· ++ ".")).getD "" ++ t.name

-- The quoted form of a type.
def shown (t : NativeType) : String :=
  match t with
  | .stepKind | .enumeration => s!"<enum '{t.name}'>"
  | .anything => "typing.Any"
  | t => s!"<class '{t.fullName}'>"

-- What the type of an instance is called.
def instanceName : NativeType → String
  | .path => "PosixPath"
  | t => t.name

-- The names of the fields of a record.
def fieldNames : NativeType → List String
  | .deck => ["steps", "args"]
  | .checkRow => ["name", "ok", "detail"]
  | .checkReport => ["rows"]
  | _ => []

-- The operations that a type with abstract ones leaves open.
def openOperations : NativeType → List String
  | .mapping => ["__getitem__", "__iter__", "__len__"]
  | .mutableMapping => ["__delitem__", "__getitem__", "__iter__", "__len__", "__setitem__"]
  | .sequence => ["__getitem__", "__len__"]
  | .iterable => ["__iter__"]
  | .callable => ["__call__"]
  | _ => []

end NativeType

namespace TypeSynonym

-- The type that a synonym fills in.
def origin : TypeSynonym → NativeType
  | .environment | .genericMapping => .mapping
  | .genericSequence => .sequence
  | .inputStep | .intermediateStep | .outputStep | .step => .callable
  | .applied origin _ _ => origin

def typeName : TypeSynonym → String
  | .environment => "GenericAlias"
  | .genericMapping | .genericSequence => "_SpecialGenericAlias"
  | .inputStep | .intermediateStep | .outputStep | .step => "_CallableGenericAlias"
  | .applied _ typeName _ => typeName

-- The parameters of the synonyms, as they are shown one after the other.
def parameters : TypeSynonym → List String
  | .environment => ["str", "typing.Any"]
  | .inputStep => ["...", "collections.abc.Mapping[str, typing.Any]"]
  | .intermediateStep => List.replicate 2 "collections.abc.Mapping[str, typing.Any]"
  | .outputStep => ["collections.abc.Mapping[str, typing.Any]", "typing.Any"]
  | .step => ["...", "typing.Any"]
  | .genericMapping | .genericSequence | .applied .. => []

-- A type with its parameters behind it.
def withParameters (type : NativeType) (parameters : List String) : String :=
  type.fullName ++ "[" ++ String.intercalate ", " parameters ++ "]"

def shown (s : TypeSynonym) : String :=
  match s, s.parameters with
  | .genericMapping, _ => "typing.Mapping"
  | .genericSequence, _ => "typing.Sequence"
  | .applied _ _ shown, _ => shown
  | .intermediateStep, [argument, result] | .outputStep, [argument, result] =>
    withParameters .callable ["[" ++ argument ++ "]", result]
  | s, parameters => withParameters s.origin parameters

-- Whether its parameters are filled in.
def isFilled : TypeSynonym → Bool
  | .genericMapping | .genericSequence => false
  | _ => true

-- What going through a synonym with filled parameters yields: its type with the parameters spread.
def unpacked (s : TypeSynonym) : TypeSynonym :=
  match s with
  | .applied origin typeName shown =>
    .applied origin typeName (if shown.startsWith "*" then shown else "*" ++ shown)
  | s => .applied s.origin "GenericAlias" ("*" ++ withParameters s.origin s.parameters)

end TypeSynonym

def GeneratorRequest.all : List GeneratorRequest :=
  [.itself, .next, .close]

def GeneratorRequest.name : GeneratorRequest → String
  | .itself => "__iter__"
  | .next => "__next__"
  | .close => "close"

namespace Native

def name : Native → String
  | .runPipeline => "run_pipeline"
  | .compose => "compose"
  | .snapshot => "_snapshot"
  | .checkSteps => "_check_steps"
  | .define kind => s!"define_{kind.word}_step"
  | .decorate kind => s!"{kind.word}_step"
  | .checkName => "_check_name"
  | .parseParams => "_parse_params"
  | .bodyDefaults => "_body_defaults"
  | .bindNames => "_bind"
  | .finishStep => "_finish"
  | .readDeclaration => "_declare"
  | .displayName => "step_name"
  | .partialEnv => "build_partial_env"
  | .keywordEnv => "env"
  | .scopeEnv => "env_from"
  | .bindingName => "_key"
  | .asMapping => "as_mapping"
  | .asList => "as_list"
  | .required => "required"
  | .ensureIdentifier => "ensure_identifier"
  | .ensureUnique => "ensure_unique"
  | .parseSteps => "parse_steps"
  | .parseArgs => "parse_args"
  | .parseDeck => "parse_deck"
  | .loadDeck => "load_deck"
  | .resolveSteps => "resolve_steps"
  | .runDeckData => "run_deck_data"
  | .runDeck => "run_deck"
  | .createRegistry => "create_step_registry"
  | .defaultRegistry => "build_default_registry"
  | .invoke => "__call__"
  | .initialise _ => "__init__"
  | .normalForm => "_normalize"
  | .register => "register"
  | .resolve => "resolve"
  | .supportedNames => "supported_names"
  | .resolveRef => "resolve_ref"
  | .yamlLoad => "safe_load"
  | .yamlScalar => "_yaml_scalar"
  | .buildParser => "build_parser"
  | .main => "main"
  | .selfCheck => "run_selfcheck"
  | .reportText => "to_text"
  | .isKeyword _ => "__contains__"
  | .reduce => "reduce"
  | .dataclass => "dataclass"
  | .field => "field"
  | .ofGenerator request => request.name
  | .type t => t.name
  | .synonym s => s.origin.name
  | .other name _ => name

-- The type that an operation belongs to.
def owner? : Native → Option NativeType
  | .normalForm | .register | .resolve | .supportedNames | .resolveRef => some .registry
  | .initialise t => some t
  | .reportText => some .checkReport
  | _ => none

-- The name with that of the type in front, as it stands in complaints about arguments.
def fullName (operation : Native) : String :=
  match operation.owner? with
  | some owner => s!"{owner.name}.{operation.name}"
  | none => operation.name

def typeName : Native → String
  | .isKeyword _ | .reduce | .ofGenerator .close => "builtin_function_or_method"
  | .invoke | .ofGenerator _ => "method-wrapper"
  | .type t => t.typeName
  | .synonym s => s.typeName
  | .other _ typeName => typeName
  | _ => "function"

-- The quoted form.
def shown (operation : Native) : String :=
  match operation with
  | .isKeyword _ => s!"<built-in method {operation.name}>"
  | .reduce => s!"<built-in function {operation.name}>"
  | .type t => t.shown
  | .synonym s => s.shown
  | .other name typeName =>
    if typeName = "function" then s!"<function {name}>"
    else if typeName = NativeType.enumeration.typeName then s!"<enum '{name}'>"
    else s!"<class '{name}'>"
  | operation => s!"<function {operation.fullName}>"

end Native

end StepFlow
