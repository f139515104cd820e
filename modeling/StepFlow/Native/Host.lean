import StepFlow.Catalogue.Own
import StepFlow.Command
import StepFlow.Native.Construct
import StepFlow.Native.Declare
import StepFlow.Yaml.Subset

namespace StepFlow

namespace Native

open Signature (Scope)

def argument (scope : Scope) (name : String) : Value :=
  (scope.lookup name).getD .none

def itemsArgument (scope : Scope) (name : String) : List Value :=
  ((argument scope name).items?).getD []

-- A requirement whose complaint names a context. The context can be any value; only where there
-- is a complaint it has to have a plain form.
def inContext {α : Type} (context : Value) (required : String → Run α) : Run α := do
  match ← Run.attempt (required context.plain) with
  | .ok a => return a
  | .error (.unmet cause) => do
    let _ ← Fault.met context.plainForm
    Run.fail (.unmet cause)
  | .error fault => Run.fail fault

-- A name that can be bound, as declarations ask for it.
def checkBindingName (name context : Value) : Run Value := do
  match ← Run.attempt (inContext context fun text => Fault.met (Require.identifier name text)) with
  | .ok _ => return name
  | .error (.unmet cause) => Run.fail (.declaration (.bindingName cause) .none)
  | .error fault => Run.fail fault

-- The arguments that a deck parsed by itself holds.
def parsedArgs (deck : Value) : Except Fault Value :=
  match deck.entries? with
  | none => .error (deck.lacksMapping "get")
  | some entries => do return .tuple (← Fault.met (Deck.parseArgs entries))

def parsedSteps (deck : Value) : Except Fault Value := do
  let entries ← Fault.met (Require.mapping deck "deck")
  return .tuple ((← Fault.met (Deck.parseSteps entries)).map .str)

def declared (declaration : Except Fault (Declaration Value Callable)) : Run Value := do
  let d ← declaration
  Run.identified fun serial => .callable (.step serial d)

-- What a registry holds, or a value that was filled like one.
def contents (self : Value) : Run Registry := do
  match ← Run.registry? self with
  | some registry => return registry
  | none => Run.fail (self.lacks "_steps")

-- The same where names are looked up, which takes what their normal form is found by.
def named (self : Value) : Run Registry := do
  let registry ← contents self
  let _ ← self.getAttribute "_normalize"
  return registry

-- Fills a registry anew. Any value that takes attributes can stand in the place of an empty one.
def fillRegistry (host : Host) (self steps : Value) : Run Value :=
  match self with
  | .registry _ => do
    Registry.fill self steps
    return .none
  | self => do
    self.takeAttribute "_steps"
    Run.give self "_steps" (.dict [])
    Run.keep self .empty
    if steps.truthy then
      match steps.entries? with
      | some entries => entries.forM fun (name, step) => do
        let _ ← self.invoke host "register" [name, step]
      | none => Run.fail (steps.lacksMapping "items")
    return .none

def registerIn (self name step : Value) : Run Value :=
  match step.callable? with
  | none => do
    let _ ← Registry.empty.register name step
    return .none
  | some _ => do
    Run.keep self (← (← named self).register name step)
    return .none

-- Resolves a reference. What is no registry is only asked for a registered name.
def resolveIn (world : World) (host : Host) (self ref : Value) : Run Value :=
  match self with
  | .registry _ => do
    return .callable (← Reference.resolve host world.catalogue (← contents self) ref)
  | self => do
    let step ← self.invoke host "resolve" [ref]
    if step matches .none then Run.fail (self.lacks "supported_names") else return step

-- Resolves references in order in a registry, or in what stands for one.
def resolveAllIn (world : World) (host : Host) (self : Value) (refs : List String) :
    Run (List Callable) :=
  match self with
  | .registry _ => do Reference.resolveAll host world.catalogue (← contents self) refs
  | self => refs.mapM fun ref => do
    match (← self.invoke host "resolve_ref" [.str ref]).callable? with
    | some step => return step
    | none => Run.fail (self.lacks "resolve_ref")

-- Resolves references in order through whatever a registry is given by.
def resolveThrough (host : Host) (deck registry : Value) : Run Value := do
  let refs ← deck.getAttribute "steps"
  return .list (← Run.mapItems refs fun ref => registry.invoke host "resolve_ref" [ref])

-- The line of a row of a report. Rows can be any values with the attributes of a row.
def rowLine (row : Value) : Run String := do
  let ok ← row.getAttribute "ok"
  let name ← Fault.met (← row.getAttribute "name").plainForm
  let detail ← Fault.met (← row.getAttribute "detail").plainForm
  return CheckReport.line ok.truthy name detail

-- The text of a report. Its rows are gone through twice.
def textOfReport (self : Value) : Run Value := do
  let lines ← Run.mapItems (← self.getAttribute "rows") rowLine
  return .str (CheckReport.textOf lines (← self.getAttribute "ok").truthy)

-- Folds a function over items, from a start or from the first of them.
def reduceItems (host : Host) (function items : Value) (start? : Option Value) : Run Value := do
  if !Run.isIterable items then
    Run.fail (.raised .type "reduce() arg 2 must support iteration")
  else do
    let total? ← Run.foldItems items (fun (total? : Option Value) v =>
      match total? with
      | none => return some v
      | some total => do return some (← function.call host [total, v])) start?
    match total? with
    | some total => return total
    | none => Run.fail (.raised .type "reduce() of empty iterable with no initial value")

def reduceArguments (host : Host) : List Value → Run Value
  | [function, items] => reduceItems host function items none
  | [function, items, start] => reduceItems host function items (some start)
  | args =>
    let bound := if args.length < 2 then "at least 2" else "at most 3"
    Run.fail (.raised .type s!"reduce expected {bound} arguments, got {args.length}")

-- Asks a generator for something. None of its requests takes an argument.
def askGenerator (request : GeneratorRequest) : List Value → Run Value
  | [.generator serial] =>
    match request with
    | .itself => return .generator serial
    | .next => do
      match ← Run.next? serial with
      | some v => return v
      | none => Run.fail (.raised .ended "")
    | .close => do
      Run.finish serial
      return .none
  | args =>
    let given := args.length - 1
    Run.fail (.raised .type (match request with
      | .close => s!"generator.close() takes no arguments ({given} given)"
      | _ => s!"expected 0 arguments, got {given}"))

-- Whether a value is a reserved word. A set is looked for as one that does not change.
def testKeyword (soft : Bool) : List Value → Run Value
  | [.set _] => return .bool false
  | [v] => do
    v.hashed
    let words := if soft then Text.softWords else Text.reservedWords
    return .bool ((v.text?.map words.contains).getD false)
  | args =>
    let function := "frozenset." ++ (Native.isKeyword soft).name
    Run.fail (.raised .type s!"{function}() takes exactly one argument ({args.length} given)")

-- The value of a YAML text.
def loadYaml (yaml : Yaml.Reader) (stream : Value) : Run Value := do
  match ← yaml.read (.value stream) with
  | some v => return v
  | none => Run.fail (.raised .value "malformed YAML")

-- A type with the operations of a record; a type that is left out is asked for later. A ratio
-- belongs to a module like a type, but takes no attributes.
def recordType (type : Value) : Run Value :=
  match type with
  | .none => return Attribute.found "function" "wrap"
  | .ratio _ => Run.fail (type.lacks "__dataclass_params__")
  | type => do
    let _ ← type.getAttribute "__module__"
    let _ ← type.getAttribute "__mro__"
    return type

-- One operation on bound arguments.
def perform (world : World) (host : Host) (operation : Native) (scope : Scope) : Run Value :=
  let arg := argument scope
  match operation with
  | .runPipeline => Pipeline.run host (arg "args") (arg "steps")
  | .compose => do return .callable (← Pipeline.compose (itemsArgument scope "steps"))
  | .snapshot => return (arg "env").snapshot
  | .checkSteps => do
    let (first, rest) ← Pipeline.ofValue (arg "steps")
    return .list ((first :: rest).map .callable)
  | .define kind =>
    declared (Declaration.declare kind (arg "name") (arg "params") (arg "body") (arg "doc"))
  | .decorate kind => declared (Declaration.ofFunction kind (arg "fn"))
  | .checkName => do
    let _ ← Declaration.checkName (arg "name")
    return arg "name"
  | .parseParams => Declare.parseParams (arg "name") (arg "params") (arg "kind")
  | .bodyDefaults => Declare.bodyDefaults (arg "name") (arg "body") (arg "n_fixed")
  | .bindNames =>
    Declare.bindNames (arg "env") (arg "name") (arg "kind") (arg "params") (arg "defaults")
  | .readDeclaration => Declare.readDeclaration (arg "fn") (arg "kind")
  | .displayName => do return .str (← Fault.met (arg "step").displayForm)
  | .partialEnv => Bindings.partialEnv (arg "bindings")
  | .keywordEnv => return .dict []
  | .scopeEnv => Bindings.scopeEnv (arg "scope") (itemsArgument scope "names")
  | .bindingName => checkBindingName (arg "name") (arg "context")
  | .asMapping => inContext (arg "context") fun context => do
    let _ ← Fault.met (Require.mapping (arg "value") context)
    return arg "value"
  | .asList => inContext (arg "context") fun context => do
    return .list (← Fault.met (Require.list (arg "value") context (arg "allow_empty").truthy))
  | .required => inContext (arg "context") fun context =>
    Require.item (arg "mapping") (arg "key") context
  | .ensureIdentifier => inContext (arg "context") fun context => do
    let _ ← Fault.met (Require.identifier (arg "value") context)
    return arg "value"
  | .ensureUnique => inContext (arg "context") fun context => do
    Require.distinctItems (arg "names") context
    return .none
  | .parseSteps => parsedSteps (arg "deck")
  | .parseArgs => parsedArgs (arg "deck")
  | .parseDeck => do return (← Fault.met (Deck.parse (arg "payload"))).value
  | .loadDeck => do DeckFile.load world (← (arg "deck_path").path)
  | .resolveSteps => resolveThrough host (arg "deck") (arg "registry")
  | .runDeckData =>
    Deck.runData host world.catalogue Registry.default (arg "payload") (arg "args")
  | .runDeck => do
    DeckFile.run world host Registry.default (← (arg "deck_path").path) (arg "args")
  | .createRegistry => Registry.make (arg "steps")
  | .defaultRegistry => do
    let self ← Run.identified .registry
    Run.keep self Registry.default
    return self
  | .initialise .registry => fillRegistry host (arg "self") (arg "steps")
  | .initialise t => t.initialise scope
  | .normalForm => do return .str (← Registry.nameOf (arg "name"))
  | .register => registerIn (arg "self") (arg "name") (arg "step")
  | .resolve => do
    return ((← (← named (arg "self")).resolve (arg "name")).map Value.callable).getD .none
  | .supportedNames => do
    return .tuple ((← contents (arg "self")).supportedNames.map .str)
  | .resolveRef => resolveIn world host (arg "self") (arg "ref")
  | .yamlLoad => loadYaml world.yaml (arg "stream")
  | .yamlScalar => Command.scalarOf world.yaml (arg "text")
  | .buildParser => Run.identified fun serial =>
    .object "ArgumentParser" Command.parserShown serial
  | .main => do
    let items ← if arg "argv" matches .none then pure [] else Run.itemsOf (arg "argv")
    return .int (← Command.execute world host items)
  | .selfCheck => do return (← SelfCheck.report host world.catalogue (arg "smoke").truthy).value
  | .reportText => textOfReport (arg "self")
  | .dataclass => recordType (arg "cls")
  | .field => Run.identified fun serial => .object "Field" "Field()" serial
  | .finishStep | .invoke | .isKeyword _ | .reduce | .ofGenerator _ | .type _ | .synonym _
  | .other .. =>
    Run.fail (.raised .type s!"{operation.name} cannot be called here")

-- Calls an operation. Types are made instances of, and all else has its arguments bound first.
def call (world : World) (host : Host) (operation : Native) (args : List Value) : Run Value :=
  match operation with
  | .type t => t.construct args
  | .synonym s => s.origin.construct args
  | .isKeyword soft => testKeyword soft args
  | .reduce => reduceArguments host args
  | .ofGenerator request => askGenerator request args
  | .invoke => do (args.head?.getD .none).call host (args.drop 1)
  | .other name _ => Run.fail (.raised .type s!"{name} cannot be called here")
  | operation => do
    let scope ← Signature.bind operation.fullName (operation.signature?.getD []) args
    operation.perform world host scope

end Native

-- What callables do, with calls back into them up to a depth.
def Host.ofDepth (world : World) : Nat → Host
  | 0 => fun _ _ => Run.fail .recursion
  | depth + 1 => fun c args =>
    match c with
    | .native operation => operation.call world (Host.ofDepth world depth) args
    | c => c.call (Host.ofDepth world depth) args

-- The depth that is enough for every use that ends.
def World.depth : Nat := 1000

def World.host (world : World) : Host :=
  Host.ofDepth world World.depth

-- The world that holds the library and nothing else.
def World.bare : World :=
  ⟨fun _ => .missing, Catalogue.withModules []⟩

end StepFlow
