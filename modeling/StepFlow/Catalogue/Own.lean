import StepFlow.Catalogue

namespace StepFlow

namespace Catalogue.Own

def operation (n : Native) : String × Target :=
  (n.name, .value (.callable (.native n)))

def type (t : NativeType) : String × Target :=
  (t.name, .value (.callable (.native (.type t))))

def synonym (name : String) (s : TypeSynonym) : String × Target :=
  (name, .value (.callable (.native (.synonym s))))

def step (name : String) : String × Target :=
  (name, .value (((BuiltIn.all.lookup name).map Value.callable).getD .none))

-- What is only found and not used, with its type.
def found (name typeName : String) : String × Target :=
  (name, .value (Attribute.found typeName name))

def thing (name typeName : String) : String × Target :=
  (name, .value (.object typeName name 0))

def submodule (package name : String) : String × Target :=
  (name, .module s!"{package}.{name}")

def outside (name : String) : String × Target :=
  (name, .module name)

def names (texts : List String) : String × Target :=
  ("__all__", .value (.list (texts.map .str)))

def errors : List (String × Target) :=
  [Category.argumentShape, .contract, .declaration, .deck, .pipeline].map fun category =>
    type (.error category)

def errorNames : List String :=
  errors.map Prod.fst

def stepKind : String × Target := type .stepKind

def registryClass : String × Target := type .registry

def defining : List (String × Target) :=
  [operation (.define .input), operation (.define .intermediate), operation (.define .output),
    operation (.decorate .input), operation (.decorate .intermediate),
    operation (.decorate .output), step "nop_step"]

def engine : List (String × Target) :=
  [operation .compose, operation .runPipeline]

def registering : List (String × Target) :=
  [registryClass, operation .defaultRegistry, operation .createRegistry]

def environment : String × Target := synonym "Environment" .environment

def stepType : String × Target := synonym "Step" .step

def stepTypes : List (String × Target) :=
  [environment, synonym "InputStep" .inputStep, synonym "IntermediateStep" .intermediateStep,
    synonym "OutputStep" .outputStep, stepType]

def genericMapping : String × Target := synonym "Mapping" .genericMapping

def genericSequence : String × Target := synonym "Sequence" .genericSequence

def validators : List (String × Target) :=
  [operation .asList, operation .asMapping, operation .ensureIdentifier,
    operation .ensureUnique, operation .required]

def deckParsing : List (String × Target) :=
  [operation .parseArgs, operation .parseDeck, operation .parseSteps]

def bindings : List (String × Target) :=
  [operation .partialEnv, operation .keywordEnv, operation .scopeEnv]

def pipelineNames : List String :=
  ["Environment", "Step", "StepKind", "StepRegistry", "build_default_registry", "compose",
    "create_step_registry", "define_input_step", "define_intermediate_step",
    "define_output_step", "input_step", "intermediate_step", "nop_step", "output_step",
    "run_pipeline"]

def future : String × Target := thing "annotations" "_Feature"

def anyType : String × Target := type .anything

def logger : String × Target := thing "logger" "Logger"

-- The library's own modules.
def modules : List Module :=
  [⟨"envpipe", true, .file true,
      engine ++ registering ++ [environment, stepType] ++ defining ++ [stepKind] ++ errors ++
      bindings ++ [("__version__", .value (.str "0.2.0")),
        names (errorNames ++ ["build_partial_env", "env", "env_from"] ++ pipelineNames)] ++
      ["app", "cli", "config", "deck", "errors", "pipeline", "selfcheck"].map
        (submodule "envpipe")⟩,
    ⟨"envpipe.app", true, .file true, [submodule "envpipe.app" "cli"]⟩,
    ⟨"envpipe.app.cli", false, .file true,
      [future, outside "argparse", outside "logging", outside "yaml", anyType,
        operation .runDeck, type (.error .pipeline), operation .defaultRegistry,
        operation .selfCheck, operation .yamlScalar, operation .buildParser, operation .main]⟩,
    ⟨"envpipe.cli", false, .file true,
      [future, operation .buildParser, operation .main, names ["build_parser", "main"]]⟩,
    ⟨"envpipe.config", true, .file true,
      validators ++ deckParsing ++ [type .deck,
        names ["PipelineDeck", "as_list", "as_mapping", "ensure_identifier", "ensure_unique",
          "parse_args", "parse_deck", "parse_steps", "required"]] ++
      ["deck_models", "parser", "validators"].map (submodule "envpipe.config")⟩,
    ⟨"envpipe.config.deck_models", false, .file true,
      [future, operation .dataclass, operation .field, anyType, type .deck]⟩,
    ⟨"envpipe.config.parser", false, .file true,
      [future, anyType, genericMapping, type .deck, operation .asList, operation .asMapping,
        operation .required] ++ deckParsing⟩,
    ⟨"envpipe.config.validators", false, .file true,
      validators ++ [future, outside "keyword", anyType, genericMapping, genericSequence]⟩,
    ⟨"envpipe.deck", false, .file true,
      [future, outside "logging", type .path, anyType, genericSequence, outside "yaml",
        type .deck, operation .parseDeck, type (.error .deck), operation .runPipeline,
        registryClass, operation .defaultRegistry, stepType, logger, operation .loadDeck,
        operation .resolveSteps, operation .runDeckData, operation .runDeck,
        names ["load_deck", "resolve_steps", "run_deck", "run_deck_data"]]⟩,
    ⟨"envpipe.env", false, .file true,
      [future, type .iterable, type .mapping, anyType, operation .ensureIdentifier,
        type (.error .declaration), operation .bindingName,
        names ["build_partial_env", "env", "env_from"]] ++ bindings⟩,
    ⟨"envpipe.errors", false, .file true, future :: errors⟩,
    ⟨"envpipe.pipeline", true, .file true,
      engine ++ registering ++ [environment, stepType] ++ defining ++
      [stepKind, names pipelineNames] ++
      ["engine", "registry", "step_base", "steps"].map (submodule "envpipe.pipeline")⟩,
    ⟨"envpipe.pipeline.engine", false, .file true,
      engine ++ [future, outside "logging", type .callable, type .mutableMapping,
        type .sequence, operation .reduce, anyType,
        ("MappingProxyType", .value (.callable (.native (.type .readOnlyView)))),
        type (.error .argumentShape), stepType, stepKind, operation .displayName, logger,
        operation .snapshot, operation .checkSteps, names ["compose", "run_pipeline"]]⟩,
    ⟨"envpipe.pipeline.registry", false, .file true,
      registering ++ [future, outside "importlib", outside "logging", type .mapping,
        type (.error .deck), stepType, step "nop_step", logger,
        names ["StepRegistry", "build_default_registry", "create_step_registry"]]⟩,
    ⟨"envpipe.pipeline.step_base", false, .file true,
      stepTypes ++ [future, type .callable, type .mapping, type .enumeration, anyType, stepKind,
        operation .displayName,
        names ["Environment", "InputStep", "IntermediateStep", "OutputStep", "Step", "StepKind",
          "step_name"]]⟩,
    ⟨"envpipe.pipeline.steps", false, .file true,
      defining ++ stepTypes ++ [future, outside "inspect", type .callable, type .mapping, anyType,
        operation .asList, operation .ensureIdentifier, operation .ensureUnique,
        type (.error .contract), type (.error .declaration), stepKind,
        ("_EMPTY", .value Native.missing),
        ("_POSITIONAL", .value (.tuple [Attribute.thing "_ParameterKind",
          Attribute.thing "_ParameterKind"])),
        operation .checkName, operation .parseParams, operation .bodyDefaults,
        operation .bindNames, operation .finishStep, operation .readDeclaration,
        names ["define_input_step", "define_intermediate_step", "define_output_step",
          "input_step", "intermediate_step", "nop_step", "output_step"]]⟩,
    ⟨"envpipe.selfcheck", false, .file false,
      [future, outside "importlib", operation .dataclass, type .ratio, operation .scopeEnv,
        operation .runPipeline, operation (.decorate .input), operation (.decorate .intermediate),
        step "nop_step", operation (.decorate .output), step "load_value", step "add_one",
        step "product", step "quotient", type .checkRow, type .checkReport,
        operation .selfCheck]⟩]

def functions (texts : List String) : List (String × Target) :=
  texts.map fun name => found name "function"

def types (texts : List String) : List (String × Target) :=
  texts.map fun name => found name "type"

-- What is of the type of that name and is not called.
def things (typeName : String) (texts : List String) : List (String × Target) :=
  texts.map fun name => thing name typeName

-- Modules that the own ones use, with what they offer under a public name.
def outsideModules : List Module :=
  [⟨"argparse", false, .file true,
      types ["Action", "ArgumentDefaultsHelpFormatter", "ArgumentError", "ArgumentParser",
        "ArgumentTypeError", "BooleanOptionalAction", "FileType", "HelpFormatter",
        "MetavarTypeHelpFormatter", "Namespace", "RawDescriptionHelpFormatter",
        "RawTextHelpFormatter"] ++
      things "str" ["ONE_OR_MORE", "OPTIONAL", "PARSER", "REMAINDER", "SUPPRESS", "ZERO_OR_MORE"] ++
      [found "ngettext" "function", thing "warnings" "module"]⟩,
    ⟨"importlib", true, .file true,
      functions ["find_loader", "import_module", "invalidate_caches", "reload"] ++
      things "module" ["abc", "machinery", "resources", "sys", "util", "warnings"] ++
      [found "__import__" "function", thing "__all__" "list"]⟩,
    ⟨"inspect", false, .file true,
      functions ["classify_class_attrs", "cleandoc", "currentframe", "findsource",
        "formatannotation", "formatannotationrelativeto", "formatargvalues", "get_annotations",
        "getabsfile", "getargs", "getargvalues", "getattr_static", "getblock", "getcallargs",
        "getclasstree", "getclosurevars", "getcomments", "getcoroutinelocals", "getcoroutinestate",
        "getdoc", "getfile", "getframeinfo", "getfullargspec", "getgeneratorlocals",
        "getgeneratorstate", "getinnerframes", "getlineno", "getmembers", "getmembers_static",
        "getmodule", "getmodulename", "getmro", "getouterframes", "getsource", "getsourcefile",
        "getsourcelines", "indentsize", "isabstract", "isasyncgen", "isasyncgenfunction",
        "isawaitable", "isbuiltin", "isclass", "iscode", "iscoroutine", "iscoroutinefunction",
        "isdatadescriptor", "isframe", "isfunction", "isgenerator", "isgeneratorfunction",
        "isgetsetdescriptor", "ismemberdescriptor", "ismethod", "ismethoddescriptor",
        "ismethodwrapper", "ismodule", "isroutine", "istraceback", "namedtuple", "signature",
        "stack", "trace", "unwrap", "walktree"] ++
      types ["ArgInfo", "Arguments", "Attribute", "BlockFinder", "BoundArguments",
        "ClassFoundException", "ClosureVars", "EndOfBlock", "FrameInfo", "FullArgSpec",
        "OrderedDict", "Parameter", "Signature", "Traceback", "attrgetter"] ++
      things "str" ["CORO_CLOSED", "CORO_CREATED", "CORO_RUNNING", "CORO_SUSPENDED", "GEN_CLOSED",
        "GEN_CREATED", "GEN_RUNNING", "GEN_SUSPENDED"] ++
      things "int" ["CO_ASYNC_GENERATOR", "CO_COROUTINE", "CO_GENERATOR", "CO_ITERABLE_COROUTINE",
        "CO_NESTED", "CO_NEWLOCALS", "CO_NOFREE", "CO_OPTIMIZED", "CO_VARARGS", "CO_VARKEYWORDS",
        "TPFLAGS_IS_ABSTRACT"] ++
      things "module" ["abc", "ast", "builtins", "collections", "dis", "enum", "functools",
        "importlib", "itertools", "linecache", "os", "re", "sys", "token", "tokenize", "types"] ++
      [("iskeyword", .value (.callable (.native (.isKeyword false)))),
        thing "modulesbyfile" "dict", thing "__all__" "list"]⟩,
    ⟨"keyword", false, .file true,
      [("iskeyword", .value (.callable (.native (.isKeyword false)))),
        ("issoftkeyword", .value (.callable (.native (.isKeyword true)))),
        ("kwlist", .value (.list (Text.reservedWords.map .str))),
        ("softkwlist", .value (.list (Text.softWords.map .str))),
        names ["iskeyword", "issoftkeyword", "kwlist", "softkwlist"]]⟩,
    ⟨"logging", true, .file true,
      functions ["addLevelName", "basicConfig", "captureWarnings", "critical", "debug", "disable",
        "error", "exception", "fatal", "getLevelName", "getLevelNamesMapping",
        "getLogRecordFactory", "getLogger", "getLoggerClass", "info", "log", "makeLogRecord",
        "setLogRecordFactory", "setLoggerClass", "shutdown", "warn", "warning"] ++
      types ["BufferingFormatter", "FileHandler", "Filter", "Filterer", "Formatter",
        "GenericAlias", "Handler", "LogRecord", "Logger", "LoggerAdapter", "Manager",
        "NullHandler", "PercentStyle", "PlaceHolder", "RootLogger", "StrFormatStyle",
        "StreamHandler", "StringTemplateStyle", "Template"] ++
      things "module" ["atexit", "collections", "io", "os", "re", "sys", "threading", "time",
        "traceback", "warnings", "weakref"] ++
      things "bool" ["logMultiprocessing", "logProcesses", "logThreads", "raiseExceptions"] ++
      [("CRITICAL", .value (.int 50)), ("FATAL", .value (.int 50)), ("ERROR", .value (.int 40)),
        ("WARNING", .value (.int 30)), ("WARN", .value (.int 30)), ("INFO", .value (.int 20)),
        ("DEBUG", .value (.int 10)), ("NOTSET", .value (.int 0)), thing "BASIC_FORMAT" "str",
        thing "lastResort" "_StderrHandler", thing "root" "RootLogger", thing "__all__" "list",
        ("currentframe", .value (Attribute.found "function" "<lambda>"))]⟩,
    ⟨"yaml", true, .file false,
      functions ["add_constructor", "add_implicit_resolver", "add_multi_constructor",
        "add_multi_representer", "add_path_resolver", "add_representer", "compose", "compose_all",
        "dump", "dump_all", "emit", "full_load", "full_load_all", "load", "load_all", "parse",
        "safe_dump", "safe_dump_all", "safe_load_all", "scan", "serialize",
        "serialize_all", "unsafe_load", "unsafe_load_all", "warnings"] ++
      types ["AliasEvent", "AliasToken", "AnchorToken", "BaseDumper", "BaseLoader",
        "BlockEndToken", "BlockEntryToken", "BlockMappingStartToken", "BlockSequenceStartToken",
        "CBaseDumper", "CBaseLoader", "CDumper", "CFullLoader", "CLoader", "CSafeDumper",
        "CSafeLoader", "CUnsafeLoader", "CollectionEndEvent", "CollectionNode",
        "CollectionStartEvent", "DirectiveToken", "DocumentEndEvent", "DocumentEndToken",
        "DocumentStartEvent", "DocumentStartToken", "Dumper", "Event", "FlowEntryToken",
        "FlowMappingEndToken", "FlowMappingStartToken", "FlowSequenceEndToken",
        "FlowSequenceStartToken", "FullLoader", "KeyToken", "Loader", "MappingEndEvent",
        "MappingNode", "MappingStartEvent", "Mark", "MarkedYAMLError", "Node", "NodeEvent",
        "SafeDumper", "SafeLoader", "ScalarEvent", "ScalarNode", "ScalarToken", "SequenceEndEvent",
        "SequenceNode", "SequenceStartEvent", "StreamEndEvent", "StreamEndToken",
        "StreamStartEvent", "StreamStartToken", "TagToken", "Token", "UnsafeLoader", "ValueToken",
        "YAMLError", "YAMLObject"] ++
      things "module" ["composer", "constructor", "cyaml", "dumper", "emitter", "error", "events",
        "io", "loader", "nodes", "parser", "reader", "representer", "resolver", "scanner",
        "serializer", "tokens"] ++
      [operation .yamlLoad, found "YAMLObjectMetaclass" "type", thing "__with_libyaml__" "bool",
        ("__version__", .value (.str "6.0.2"))]⟩]

end Catalogue.Own

-- The catalogue of the library's own modules and of further ones, which hide those of one name.
def Catalogue.withModules (further : List Module) : Catalogue :=
  ⟨further, Catalogue.Own.modules, Catalogue.Own.outsideModules⟩

end StepFlow
