import StepFlow.Text.Digit
import StepFlow.Value.Lacking
import StepFlow.Value.Sequence

namespace StepFlow

-- Misuse of a command line. Shown values are in quoted form.
inductive UsageFault where
  | ambiguous (given : String) (candidates : List String)
  | ignoredArgument (option argument : String)
  | missingArgument (option : String)
  | required (names : List String)
  | choice (name shown : String) (choices : List String)
  | conversion (option typeName shown : String)
  | unrecognized (arguments : List String)
deriving DecidableEq, Repr

def UsageFault.message : UsageFault → String
  | .ambiguous given candidates =>
    s!"ambiguous option: {given} could match {commaJoined candidates}"
  | .ignoredArgument option argument =>
    s!"argument {option}: ignored explicit argument {Text.quoted argument}"
  | .missingArgument option => s!"argument {option}: expected one argument"
  | .required names => s!"the following arguments are required: {commaJoined names}"
  | .choice name shown choices =>
    let offered := commaJoined (choices.map Text.quoted)
    s!"argument {name}: invalid choice: {shown} (choose from {offered})"
  | .conversion option typeName shown => s!"argument {option}: invalid {typeName} value: {shown}"
  | .unrecognized arguments => "unrecognized arguments: " ++ String.intercalate " " arguments

-- An option under its names; it takes one argument or none.
structure OptionSpec where
  names : List String
  takesArgument : Bool
deriving DecidableEq

-- How messages name an option.
def OptionSpec.title (option : OptionSpec) : String :=
  String.intercalate "/" option.names

-- What may stand beside the options: at most one positional argument, or a first one that takes
-- everything after it.
inductive PositionalSpec where
  | nothing
  | one (name : String)
  | rest (name : String)
deriving DecidableEq

structure LineSpec where
  options : List OptionSpec
  positional : PositionalSpec

-- Why the words of a command line cannot be read: it is misused, or something else goes wrong.
inductive LineFault where
  | misuse (fault : UsageFault)
  | other (fault : Fault)

instance : MonadLift (Except Fault) (Except LineFault) where
  monadLift outcome := outcome.mapError .other

namespace Options

-- How an argument that looks like an option is read: the option, if there is such a one, the
-- name it is given by, and an argument in the same word.
structure Match where
  option? : Option OptionSpec
  name : String
  argument? : Option String

inductive Item where
  | plain (word : Value)
  | option (text : String) (found : Match)
  | dashes

-- A use of an option or of the positional argument, with what was given to it.
inductive Use where
  | option (option : OptionSpec) (arguments : List Value)
  | positional (arguments : List Value)

def allNames (spec : LineSpec) : List String :=
  spec.options.flatMap (·.names)

def named? (spec : LineSpec) (name : String) : Option OptionSpec :=
  spec.options.find? fun option => option.names.contains name

-- The text before the first equals sign and the text after it.
def splitEquals? : List Char → Option (List Char × List Char)
  | [] => none
  | '=' :: cs => some ([], cs)
  | c :: cs => (splitEquals? cs).map fun (before, after) => (c :: before, after)

def matchOf (spec : LineSpec) (name : String) (argument? : Option String) : Match :=
  ⟨named? spec name, name, argument?⟩

-- The options that a word abbreviates. A word with one dash can be a short option with its
-- argument or more short options behind it.
def candidates (spec : LineSpec) (text : List Char) : List Match :=
  let word := String.ofList text
  match text with
  | '-' :: '-' :: _ =>
    let (start, argument?) :=
      match splitEquals? text with
      | some (before, after) => (String.ofList before, some (String.ofList after))
      | none => (word, none)
    ((allNames spec).filter (·.startsWith start)).map fun name => matchOf spec name argument?
  | _ =>
    let short := String.ofList (text.take 2)
    (allNames spec).filterMap fun name =>
      if name = short then some (matchOf spec name (some (String.ofList (text.drop 2))))
      else if name.startsWith word then some (matchOf spec name none)
      else none

def isDigit (c : Char) : Bool :=
  (Text.digitValue? c).isSome

-- Negative numbers are arguments, not options. A line feed may end them.
def isNegativeNumber (text : List Char) : Bool :=
  let text := if text.getLast? = some '\n' then text.dropLast else text
  match text with
  | '-' :: number =>
    let whole := number.takeWhile isDigit
    match number.drop whole.length with
    | [] => !whole.isEmpty
    | '.' :: fraction => !fraction.isEmpty && fraction.all isDigit
    | _ => false
  | _ => false

def classifyText (spec : LineSpec) (word : String) : Except UsageFault Item :=
  let text := word.toList
  let full? := named? spec word
  if text.head? ≠ some '-' then .ok (.plain (.str word))
  else if full?.isSome then .ok (.option word ⟨full?, word, none⟩)
  else if text.length = 1 then .ok (.plain (.str word))
  else
    let marked? := (splitEquals? text).filter fun (before, _) =>
      (named? spec (String.ofList before)).isSome
    match marked?, candidates spec text with
    | some (before, after), _ =>
      .ok (.option word (matchOf spec (String.ofList before) (some (String.ofList after))))
    | none, [one] => .ok (.option word one)
    | none, [] =>
      if isNegativeNumber text || text.contains ' ' then .ok (.plain (.str word))
      else .ok (.option word ⟨none, word, none⟩)
    | none, several => .error (.ambiguous word (several.map (·.name)))

-- A word that is no text. It is an argument if it is empty or zero, or if its first item is none
-- that options start with. As a text that starts otherwise it would be an option or more of them.
def classifyOther (spec : LineSpec) (word : Value) : Except LineFault Item := do
  if !word.truthy then return .plain word
  let first ← word.item (.int 0)
  if !(← first.isIn (.str "-")) then return .plain word
  word.hashed
  match word.items? with
  | none | some [_] => return .plain word
  | some (_ :: second :: _) => do
    if ← (Value.str "=").isIn word then
      throw (.other (word.lacks "split"))
    let _ ← second.isIn (.str "-")
    throw (.misuse (.ambiguous word.plain (allNames spec)))
  | some [] => return .plain word

def classify (spec : LineSpec) (word : Value) : Except LineFault Item :=
  match word with
  | .str text => (classifyText spec text).mapError .misuse
  | .kind _ => .ok (.plain word)
  | word => classifyOther spec word

-- Classifies words up to the mark that ends the options.
def classifyAll (spec : LineSpec) : List Value → Except LineFault (List Item)
  | [] => .ok []
  | word :: words =>
    if word.text? = some "--" then .ok (.dashes :: words.map .plain)
    else do
      let item ← classify spec word
      return item :: (← classifyAll spec words)

def Item.word : Item → Value
  | .plain word => word
  | .option text _ => .str text
  | .dashes => .str "--"

-- The fault of an argument given to an option that takes none.
def ignored (option : OptionSpec) (argument : List Char) : UsageFault :=
  .ignoredArgument option.title (String.ofList argument)

-- The use of an option with its argument. The mark that ends the options is no argument, even
-- where an equals sign stands before it.
def useWith (option : OptionSpec) (argument : List Char) : Use :=
  .option option (if argument = ['-', '-'] then [] else [.str (String.ofList argument)])

-- The uses of the options in a word, from an option that has the rest of the word behind it. The
-- characters behind a short option without an argument are more short options; the last of them
-- can be left `open` for the next word. Any other option without an argument takes no rest.
def cluster (spec : LineSpec) (option : OptionSpec) (isShort : Bool) :
    List Char → Except UsageFault (List Use × Option OptionSpec)
  | [] =>
    if option.takesArgument then .ok ([useWith option []], none) else .error (ignored option [])
  | c :: cs =>
    if option.takesArgument then .ok ([useWith option (c :: cs)], none)
    else
      match (named? spec (String.ofList ['-', c])).filter fun _ => isShort with
      | none => .error (ignored option (c :: cs))
      | some other =>
        match cs with
        | [] =>
          if other.takesArgument then .ok ([.option option []], some other)
          else .ok ([.option option [], .option other []], none)
        | d :: ds =>
          (cluster spec other (c ≠ '-') (d :: ds)).map fun (uses, open?) =>
            (.option option [] :: uses, open?)

-- What reading items comes to: the uses up to a fault, and the words that were not recognized or
-- that fault.
abbrev Reading := List Use × Except UsageFault (List Value)

-- Puts uses and unrecognized words in front of those of a reading.
def Reading.after (uses : List Use) (extras : List Value) (reading : Reading) : Reading :=
  (uses ++ reading.1, reading.2.map (extras ++ ·))

-- Whether a name is one of the short ones.
def isShort (name : String) : Bool :=
  name.toList[1]? ≠ some '-'

-- The uses of an option item, and an option that takes the next word.
def usesOf (spec : LineSpec) (option : OptionSpec) (found : Match) :
    Except UsageFault (List Use × Option OptionSpec) :=
  match found.argument? with
  | some argument => cluster spec option (isShort found.name) argument.toList
  | none => if option.takesArgument then .ok ([], some option) else .ok ([.option option []], none)

-- Reads items in order. An option that has no argument in its own word takes the next one. The
-- mark `--` belongs to the positional argument next to it; a positional argument that takes
-- everything keeps it.
def scan (spec : LineSpec) : PositionalSpec → List Item → Reading
  | _, [] => ([], .ok [])
  | positional, .option text found :: rest =>
    match found.option? with
    | none => .after [] [.str text] (scan spec positional rest)
    | some option =>
      match usesOf spec option found with
      | .error fault => ([], .error fault)
      | .ok (uses, none) => .after uses [] (scan spec positional rest)
      | .ok (uses, some other) =>
        match rest with
        | .plain argument :: rest =>
          .after (uses ++ [.option other [argument]]) [] (scan spec positional rest)
        | _ => ([], .error (.missingArgument other.title))
  | .one _, .plain word :: .dashes :: rest
  | .one _, .dashes :: .plain word :: rest
  | .one _, .plain word :: rest => .after [.positional [word]] [] (scan spec .nothing rest)
  | .rest _, .plain word :: rest => ([.positional (word :: rest.map Item.word)], .ok [])
  | .rest _, .dashes :: .plain word :: rest =>
    ([.positional (.str "--" :: word :: rest.map Item.word)], .ok [])
  | positional, item :: rest => .after [] [item.word] (scan spec positional rest)

-- The uses on a command line, with unrecognized words or the fault that ended the reading.
def read (spec : LineSpec) (words : List Value) : Except LineFault Reading :=
  (classifyAll spec words).map (scan spec spec.positional)

end Options

end StepFlow
