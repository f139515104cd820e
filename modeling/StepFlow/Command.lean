import StepFlow.DeckFile
import StepFlow.Options
import StepFlow.SelfCheck

namespace StepFlow.Command

open StepFlow.Options (Use)

def program : String := "envpipe"

-- What reads the command line, as it is shown.
def parserShown : String :=
  let fields :=
    [("prog", Text.quoted program), ("usage", "None"),
      ("description", Text.quoted "envpipe environment-threading pipelines"),
      ("formatter_class", "<class 'argparse.HelpFormatter'>"),
      ("conflict_handler", Text.quoted "error"), ("add_help", "True")]
  s!"ArgumentParser({namedFields (fields.map Prod.fst) (fields.map Prod.snd)})"

def helpOption : OptionSpec := ⟨["-h", "--help"], false⟩

def verboseOption : OptionSpec := ⟨["-v", "--verbose"], false⟩

def argOption : OptionSpec := ⟨["--arg"], true⟩

def noSmokeOption : OptionSpec := ⟨["--no-smoke"], false⟩

def commandNames : List String := ["run", "steps", "selfcheck"]

def mainLine : LineSpec := ⟨[helpOption, verboseOption], .rest "command"⟩

def runLine : LineSpec := ⟨[helpOption, argOption], .one "deck"⟩

def stepsLine : LineSpec := ⟨[helpOption], .nothing⟩

def selfCheckLine : LineSpec := ⟨[helpOption, noSmokeOption], .nothing⟩

-- The short form of what can be written on a command line, under the name that reports it.
def usageLines : List (String × String) :=
  [("envpipe", "[-h] [-v] \x7brun,steps,selfcheck\x7d ..."),
    ("envpipe run", "[-h] [--arg ARGS] deck"), ("envpipe steps", "[-h]"),
    ("envpipe selfcheck", "[-h] [--no-smoke]")]

-- What a command line asks for.
inductive Request where
  | run (deck : String) (args : Option (List Value))
  | steps
  | selfCheck (smoke : Bool)

structure Invocation where
  verbose : Bool
  request : Request

-- Why nothing is carried out: help was asked for, the line is misused, or something else goes
-- wrong. Misuse is reported by the program or by one of its commands.
inductive Stop where
  | help
  | misuse (reporter : String) (fault : UsageFault)
  | other (fault : Fault)

instance : MonadLift (Except Fault) (Except Stop) where
  monadLift outcome := outcome.mapError .other

def Stop.ofLine (reporter : String) : LineFault → Stop
  | .misuse fault => .misuse reporter fault
  | .other fault => .other fault

-- The value of a text as YAML, or what was given if it is not YAML.
def scalarOf (yaml : Yaml.Reader) (text : Value) : Except Fault Value := do
  return (← yaml.read (.value text)).getD text

-- The argument of a step that an option gives. A text that is no value is reported, and an option
-- that is left without one gives an empty list.
def argValue (yaml : Yaml.Reader) (reporter : String) : List Value → Except Stop Value
  | [text] =>
    match scalarOf yaml text with
    | .ok v => .ok v
    | .error fault =>
      if fault.category = .value then do
        .error (.misuse reporter
          (.conversion argOption.title "_yaml_scalar" (← Fault.met text.quotedForm)))
      else .error (.other fault)
  | _ => .ok (.list [])

def reporterOf (command : String) : String :=
  s!"{program} {command}"

-- Goes through the uses on a command line before a fault of the reading itself is reported. A
-- required positional argument that was not given is reported after that.
def carryOut {σ : Type} (reporter : String) (line : LineSpec) (words : List Value)
    (use : σ → Use → Except Stop σ) (isComplete : σ → Bool) (start : σ) :
    Except Stop (σ × List Value) :=
  let report {α : Type} (fault : UsageFault) : Except Stop α := .error (.misuse reporter fault)
  match Options.read line words with
  | .error fault => .error (.ofLine reporter fault)
  | .ok (uses, scanned) => do
    let state ← uses.foldlM use start
    match scanned with
    | .error fault => report fault
    | .ok extras =>
      match line.positional with
      | .one name | .rest name =>
        if isComplete state then return (state, extras) else report (.required [name])
      | .nothing => return (state, extras)

structure RunState where
  deck? : Option String
  args : Option (List Value)

def useRun (yaml : Yaml.Reader) (state : RunState) : Use → Except Stop RunState
  | .positional (deck :: _) => do
    return { state with deck? := some (← Fault.met deck.plainForm) }
  | .positional [] => .ok state
  | .option option arguments =>
    if option = helpOption then .error .help
    else do
      let v ← argValue yaml (reporterOf "run") arguments
      return { state with args := some (state.args.getD [] ++ [v]) }

def useSteps (_ : Unit) : Use → Except Stop Unit
  | .option .. => .error .help
  | .positional _ => .ok ()

def useSelfCheck (smoke : Bool) : Use → Except Stop Bool
  | .option option _ => if option = helpOption then .error .help else .ok false
  | .positional _ => .ok smoke

-- The request of a command and its words, with the words it does not recognize.
def request (yaml : Yaml.Reader) (command : Value) (words : List Value) :
    Except Stop (Request × List Value) := do
  command.hashed
  match command.text? with
  | some "run" => do
    let (state, extras) ←
      carryOut (reporterOf "run") runLine words (useRun yaml) (·.deck?.isSome) ⟨none, none⟩
    return (.run (state.deck?.getD "") state.args, extras)
  | some "steps" => do
    let (_, extras) ← carryOut (reporterOf "steps") stepsLine words useSteps (fun _ => true) ()
    return (.steps, extras)
  | some "selfcheck" => do
    let (smoke, extras) ←
      carryOut (reporterOf "selfcheck") selfCheckLine words useSelfCheck (fun _ => true) true
    return (.selfCheck smoke, extras)
  | _ => do
    .error (.misuse program (.choice "command" (← Fault.met command.quotedForm) commandNames))

structure MainState where
  verbose : Bool
  request? : Option (Request × List Value)

def useMain (yaml : Yaml.Reader) (state : MainState) : Use → Except Stop MainState
  | .option option _ =>
    if option = helpOption then .error .help else .ok { state with verbose := true }
  | .positional [] => .ok state
  | .positional (command :: words) => do
    return { state with request? := some (← request yaml command words) }

-- The texts of words that are joined; the first that is none is named by its index.
def textsOf (index : Nat) : List Value → Except Fault (List String)
  | [] => .ok []
  | word :: words =>
    match word.text? with
    | some text => (textsOf (index + 1) words).map (text :: ·)
    | none => .error (.raised .type
        s!"sequence item {index}: expected str instance, {word.operandType} found")

-- Reads a whole command line. Words that neither the program nor the command recognizes are
-- reported together.
def parse (yaml : Yaml.Reader) (words : List Value) : Except Stop Invocation := do
  let (state, extras) ←
    carryOut program mainLine words (useMain yaml) (·.request?.isSome) ⟨false, none⟩
  match state.request? with
  | none => .error (.misuse program (.required ["command"]))
  | some (request, more) =>
    match extras ++ more with
    | [] => return ⟨state.verbose, request⟩
    | extras => do .error (.misuse program (.unrecognized (← textsOf 0 extras)))

-- The path of the deck that a command line runs, if it runs one.
def deck? (yaml : Yaml.Reader) (words : List Value) : Option String :=
  match parse yaml words with
  | .ok ⟨_, .run deck _⟩ => some deck
  | _ => none

-- What is shown when help is asked for.
def helpText : String :=
  String.intercalate "\n"
    [s!"usage: {program} [-h] [-v] command ...", "", "Runs pipelines of steps.", "",
      "  -h, --help           show this text",
      "  -v, --verbose        log each step to the error output", "",
      "  run deck [--arg A]   run the pipeline of a YAML deck; each --arg is an argument",
      "                       of the first step, and together they replace the deck's",
      "  steps                list the built-in steps",
      "  selfcheck            check that the library works; with --no-smoke without",
      "                       running pipelines", ""]

-- What is shown when a line is misused.
def misuseText (reporter : String) (fault : UsageFault) : String :=
  let usage := (usageLines.lookup reporter).getD ""
  s!"usage: {reporter} {usage}\n{reporter}: error: {fault.message}\n"

-- The exit code of a command that could not be carried out.
def failure : Nat := 2

-- Runs a deck. An error of the library's own kind is reported and ends the program; any other one
-- is passed on.
def runDeck (world : World) (host : Host) (deck : String) (args : Value) : Run Nat := do
  match ← Run.attempt (DeckFile.run world host Registry.default deck args) with
  | .ok v => do
    let shown ← Fault.met v.quotedForm
    Run.emit (.output s!"Result: {shown}\n")
    return 0
  | .error fault => do
    if fault.category.isPipeline then
      Run.emit (.complaint s!"Error: {fault.message}\n")
      Run.fail (.exit failure)
    else Run.fail fault

def carryOutRequest (world : World) (host : Host) (request : Request) : Run Nat :=
  match request with
  | .run deck args => runDeck world host deck ((args.map Value.list).getD .none)
  | .steps => do
    Run.emit (.output (String.join (Registry.default.supportedNames.map (· ++ "\n"))))
    return 0
  | .selfCheck smoke => do
    let report ← SelfCheck.report host world.catalogue smoke
    Run.emit (.output (report.text ++ "\n"))
    return if report.ok then 0 else 1

-- Carries out a command line. The result is the exit code; the fault `exit` is one too.
def execute (world : World) (host : Host) (words : List Value) : Run Nat :=
  match parse world.yaml words with
  | .error .help => do
    Run.emit (.output helpText)
    Run.fail (.exit 0)
  | .error (.misuse reporter fault) => do
    Run.emit (.complaint (misuseText reporter fault))
    Run.fail (.exit failure)
  | .error (.other fault) => Run.fail fault
  | .ok ⟨verbose, request⟩ => do
    if verbose then Run.emit .verbose
    carryOutRequest world host request

-- What a program has written to its two outputs. Log records go to the error output once the
-- program is verbose.
structure Transcript where
  verbose : Bool
  stdout : String
  stderr : String

namespace Transcript

def empty : Transcript :=
  ⟨false, "", ""⟩

def add (written : Transcript) (event : Event) : Transcript :=
  match event with
  | .note _ => written
  | .log logger message =>
    if written.verbose then
      { written with stderr := written.stderr ++ s!"{logger.name}: {message}\n" }
    else written
  | .output text => { written with stdout := written.stdout ++ text }
  | .complaint text => { written with stderr := written.stderr ++ text }
  | .verbose => { written with verbose := true }

def ofEvents (events : List Event) : Transcript :=
  events.foldl add empty

end Transcript

-- The exit code of a program that has one. A fault of any other kind ends the program without.
def exitCode (outcome : Except Fault Nat) : Except Fault Nat :=
  match outcome with
  | .error (.exit code) => .ok code
  | outcome => outcome

end StepFlow.Command
