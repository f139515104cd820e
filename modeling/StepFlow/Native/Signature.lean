import StepFlow.Signature

namespace StepFlow

namespace Native

def param (name : String) : Param Value :=
  ⟨name, .positionalOrKeyword, none⟩

def paramOr (name : String) (default : Value) : Param Value :=
  ⟨name, .positionalOrKeyword, some default⟩

def keyword (name : String) (default : Value) : Param Value :=
  ⟨name, .keywordOnly, some default⟩

def requiredKeyword (name : String) : Param Value :=
  ⟨name, .keywordOnly, none⟩

-- Parameters that take anything.
def anyArguments : Signature :=
  [Signature.variadicParam "args", ⟨"kwargs", .keywords, none⟩]

-- The default of a field that is made anew for each record.
def madeAnew : Value :=
  .object "_HAS_DEFAULT_FACTORY_CLASS" "<factory>" 0

-- The default of a parameter that has none.
def missing : Value :=
  .callable (.native (.type .missing))

def notGiven : Value :=
  .object "_MISSING_TYPE" "<dataclasses._MISSING_TYPE object>" 0

end Native

-- Whether a value stands for a default that is not there.
def Value.isMissing (v : Value) : Bool :=
  v matches .callable (.native (.type .missing))

-- Parameters as they are read off a callable. A default that stands for none counts as none there,
-- though a call fills it in.
def Signature.seen (sig : Signature) : Signature :=
  sig.map fun p => { p with default? := p.default?.filter fun v => !v.isMissing }

namespace NativeType

open Native

-- What makes an instance of a type, under its name in complaints about arguments, with all of
-- its parameters. The first one is the type or the instance. Types that word complaints in
-- their own way have none.
def constructor? : NativeType → Option (String × Signature)
  | .registry => some ("StepRegistry.__init__", [param "self", paramOr "steps" .none])
  | .deck =>
    some ("PipelineDeck.__init__", [param "self", param "steps", paramOr "args" madeAnew])
  | .checkRow =>
    some ("CheckRow.__init__", [param "self", param "name", param "ok", param "detail"])
  | .checkReport => some ("SelfCheckReport.__init__", [param "self", param "rows"])
  | .error .contract | .error .argumentShape =>
    some ("ContractViolation.__init__",
      [param "self", param "message", keyword "step_name" .none, keyword "kind" .none])
  | .error .declaration =>
    some ("DeclarationSyntaxError.__init__",
      [param "self", param "message", keyword "step_name" .none])
  | .ratio =>
    some ("Fraction.__new__",
      [param "cls", paramOr "numerator" (.int 0), paramOr "denominator" .none,
        keyword "_normalize" (.bool true)])
  | .stepKind | .enumeration =>
    some ("EnumType.__call__",
      [param "cls", param "value", paramOr "names" .none, keyword "module" .none,
        keyword "qualname" .none, keyword "type" .none, keyword "start" (.int 1),
        keyword "boundary" .none])
  | _ => none

-- The parameters that can be read off a type.
def signature? (t : NativeType) : Option Signature :=
  match t with
  | .path | .anything => some anyArguments
  | .mapping | .mutableMapping | .sequence | .iterable | .callable | .missing => some []
  | t => t.constructor?.map fun (_, sig) => sig.drop 1

end NativeType

namespace Native

-- The parameters of an operation; none for callables that do not tell.
def signature? : Native → Option Signature
  | .runPipeline => some [param "args", param "steps"]
  | .compose => some [Signature.variadicParam "steps"]
  | .snapshot => some [param "env"]
  | .checkSteps => some [param "steps"]
  | .define _ =>
    some [param "name", param "params", param "body", paramOr "doc" .none]
  | .decorate _ => some [param "fn"]
  | .checkName => some [param "name"]
  | .parseParams => some [param "name", param "params", param "kind"]
  | .bodyDefaults => some [param "name", param "body", param "n_fixed"]
  | .bindNames =>
    some [param "env", param "name", param "kind", param "params", param "defaults"]
  | .finishStep =>
    some (param "fn" ::
      ["name", "kind", "params", "rest", "body", "doc"].map requiredKeyword)
  | .readDeclaration => some [param "fn", param "kind"]
  | .displayName => some [param "step"]
  | .partialEnv => some [param "bindings"]
  | .keywordEnv => some [⟨"bindings", .keywords, none⟩]
  | .scopeEnv => some [param "scope", Signature.variadicParam "names"]
  | .bindingName => some [param "name", param "context"]
  | .asMapping => some [param "value", param "context"]
  | .asList => some [param "value", param "context", keyword "allow_empty" (.bool true)]
  | .required => some [param "mapping", param "key", param "context"]
  | .ensureIdentifier => some [param "value", param "context"]
  | .ensureUnique => some [param "names", param "context"]
  | .parseSteps | .parseArgs => some [param "deck"]
  | .parseDeck => some [param "payload"]
  | .loadDeck => some [param "deck_path"]
  | .resolveSteps => some [param "deck", param "registry"]
  | .runDeckData =>
    some [param "payload", keyword "args" .none, keyword "registry" .none]
  | .runDeck =>
    some [param "deck_path", keyword "args" .none, keyword "registry" .none]
  | .createRegistry => some [param "steps"]
  | .defaultRegistry | .buildParser => some []
  | .invoke => some (param "self" :: anyArguments)
  | .initialise t => t.constructor?.map Prod.snd
  | .normalForm => some [param "name"]
  | .register => some [param "self", param "name", param "step"]
  | .resolve => some [param "self", param "name"]
  | .supportedNames | .reportText => some [param "self"]
  | .resolveRef => some [param "self", param "ref"]
  | .yamlLoad => some [param "stream"]
  | .yamlScalar => some [param "text"]
  | .main => some [paramOr "argv" .none]
  | .selfCheck => some [keyword "smoke" (.bool true)]
  | .dataclass =>
    some (⟨"cls", .positionalOnly, some .none⟩ ::
      ["init", "repr", "eq", "order", "unsafe_hash", "frozen", "match_args", "kw_only", "slots",
        "weakref_slot"].map fun name => keyword name (.bool false))
  | .field =>
    some (["default", "default_factory", "init", "repr", "hash", "compare", "metadata",
      "kw_only"].map fun name => keyword name notGiven)
  | .type t => t.signature?
  | .synonym _ => some anyArguments
  | .ofGenerator .itself | .ofGenerator .next => some [param "self"]
  | .ofGenerator .close | .isKeyword _ | .reduce | .other .. => none

end Native

end StepFlow
