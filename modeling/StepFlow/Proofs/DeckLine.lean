import StepFlow.Command
import StepFlow.Proofs.Outcome

namespace StepFlow

-- A text that neither an option nor the mark that ends the options can be.
def Undashed (text : String) : Prop :=
  text.toList.head? ≠ some '-'

instance (text : String) : Decidable (Undashed text) :=
  inferInstanceAs (Decidable (_ ≠ _))

theorem Undashed.ne_mark {text : String} (h : Undashed text) : text ≠ "--" := by
  rintro rfl
  exact h rfl

namespace Options

variable {spec : LineSpec} {text : String}

theorem classifyText_of_undashed (spec : LineSpec) (h : Undashed text) :
    classifyText spec text = .ok (.plain (.str text)) := by
  rw [classifyText]
  exact if_pos h

-- A text that abbreviates no option is taken for something, if only for an option that is not
-- known, and can be given on as it was.
theorem exists_classifyText (h : candidates spec text.toList = []) :
    ∃ item, classifyText spec text = .ok item ∧ item.word = .str text := by
  simp only [classifyText, h]
  split
  · exact ⟨_, rfl, rfl⟩
  split
  · exact ⟨_, rfl, rfl⟩
  split
  · exact ⟨_, rfl, rfl⟩
  split
  · exact ⟨_, rfl, rfl⟩
  · contradiction
  · split <;> exact ⟨_, rfl, rfl⟩
  · contradiction

theorem named?_eq_none (h : text ∉ allNames spec) : named? spec text = none := by
  refine List.find?_eq_none.mpr fun option hoption hcontains => h ?_
  exact List.mem_flatMap.mpr ⟨option, hoption, List.contains_iff_mem.mp hcontains⟩

theorem classifyAll_cons {item : Item} {items : List Item} {words : List Value}
    (hmark : text ≠ "--") (hitem : classifyText spec text = .ok item)
    (hitems : classifyAll spec words = .ok items) :
    classifyAll spec (.str text :: words) = .ok (item :: items) := by
  have hne : (Value.str text).text? ≠ some "--" := fun h => hmark (Option.some.inj h)
  have hword : classify spec (.str text) = .ok item := by rw [classify, hitem]; rfl
  rw [classifyAll, if_neg hne, hword, hitems]
  rfl

-- A text that a line takes for something, and can give on as it was.
def Passes (spec : LineSpec) (text : String) : Prop :=
  text ≠ "--" ∧ ∃ item, classifyText spec text = .ok item ∧ item.word = .str text

theorem passes_of_undashed (spec : LineSpec) (h : Undashed text) : Passes spec text :=
  ⟨h.ne_mark, _, classifyText_of_undashed spec h, rfl⟩

theorem exists_classifyAll {texts : List String} (h : ∀ text ∈ texts, Passes spec text) :
    ∃ items, classifyAll spec (texts.map .str) = .ok items ∧
      items.map Item.word = texts.map .str := by
  induction texts with
  | nil => exact ⟨[], rfl, rfl⟩
  | cons text texts ih =>
      obtain ⟨⟨hmark, item, hitem, hword⟩, htexts⟩ := List.forall_mem_cons.mp h
      obtain ⟨items, hitems, hwords⟩ := ih htexts
      refine ⟨item :: items, classifyAll_cons hmark hitem hitems, ?_⟩
      rw [List.map_cons, List.map_cons, hword, hwords]

-- An option that takes an argument takes all that stands behind it in its word.
theorem cluster_of_takesArgument {option : OptionSpec} (h : option.takesArgument = true)
    (spec : LineSpec) (isShort : Bool) (argument : List Char) :
    cluster spec option isShort argument = .ok ([useWith option argument], none) := by
  cases argument with
  | nil => rw [cluster, if_pos h]
  | cons c cs => rw [cluster, if_pos h]

theorem useWith_of_undashed (option : OptionSpec) (h : Undashed text) :
    useWith option text.toList = .option option [.str text] := by
  have hmark : text.toList ≠ ['-', '-'] := fun hmark => h (congrArg List.head? hmark)
  rw [useWith, if_neg hmark, String.ofList_toList]

theorem Reading.after_nil (reading : Reading) : reading.after [] [] = reading := by
  obtain ⟨uses, outcome⟩ := reading
  cases outcome <;> rfl

theorem Reading.after_after (uses more : List Use) (reading : Reading) :
    (reading.after more []).after uses [] = reading.after (uses ++ more) [] := by
  obtain ⟨later, outcome⟩ := reading
  rw [after, after, after, List.append_assoc]
  cases outcome <;> rfl

-- A positional argument that takes everything takes the words as they were.
theorem scan_rest (spec : LineSpec) (name : String) (word : Value) (items : List Item) :
    scan spec (.rest name) (.plain word :: items) =
      ([.positional (word :: items.map Item.word)], .ok []) := by
  simp only [scan]

end Options

namespace Command

open Options

-- An option that gives an argument to the first step. Its text stands in a word of its own, or is
-- joined to the name of the option by an equals sign.
structure ArgOption where
  text : String
  joined : Bool
  undashed : Undashed text := by decide

namespace ArgOption

def words (o : ArgOption) : List String :=
  if o.joined then ["--arg=" ++ o.text] else ["--arg", o.text]

-- Its words as they are read, and what they come to.
def items (o : ArgOption) : List Item :=
  if o.joined then [.option ("--arg=" ++ o.text) ⟨some argOption, "--arg", some o.text⟩]
  else [.option "--arg" ⟨some argOption, "--arg", none⟩, .plain (.str o.text)]

def use (o : ArgOption) : Use :=
  .option argOption [.str o.text]

-- What its text stands for: its value as YAML, or itself if it is no YAML.
def value (yaml : Yaml.Reader) (o : ArgOption) : Value :=
  ((yaml.read (.value (.str o.text))).toOption.bind id).getD (.str o.text)

end ArgOption

-- The arguments that options give together, if there is an option.
def argsOf (yaml : Yaml.Reader) (options : List ArgOption) : Option (List Value) :=
  if options.isEmpty then none else some (options.map (ArgOption.value yaml))

-- What is relied on when YAML is read from the texts of options: each is a value or no YAML.
def AllConvert (yaml : Yaml.Reader) (options : List ArgOption) : Prop :=
  ∀ o ∈ options, ∀ fault, yaml.read (.value (.str o.text)) ≠ .error fault

instance (yaml : Yaml.Reader) (options : List ArgOption) : Decidable (AllConvert yaml options) :=
  inferInstanceAs (Decidable (∀ o ∈ options, ∀ _, _ ≠ _))

-- What stands in front of a command.
def flags (verbose : Bool) : List String :=
  if verbose then ["-v"] else []

-- A command line that runs a deck.
structure DeckLine where
  verbose : Bool
  before : List ArgOption
  deck : String
  after : List ArgOption
  undashed : Undashed deck := by decide

namespace DeckLine

def options (line : DeckLine) : List ArgOption :=
  line.before ++ line.after

-- The words behind the command.
def operands (line : DeckLine) : List String :=
  line.before.flatMap ArgOption.words ++ line.deck :: line.after.flatMap ArgOption.words

def words (line : DeckLine) : List String :=
  flags line.verbose ++ "run" :: line.operands

-- The uses that they are read as.
def uses (line : DeckLine) : List Use :=
  line.before.map ArgOption.use ++
    .positional [.str line.deck] :: line.after.map ArgOption.use

-- What the deck is run with: the arguments of the options, or nothing.
def args (yaml : Yaml.Reader) (line : DeckLine) : Value :=
  ((argsOf yaml line.options).map .list).getD .none

end DeckLine

theorem ne_mark_joined (text : String) : "--arg=" ++ text ≠ "--" := by
  intro h
  have hlength : ("--arg=" ++ text).toList.length = 2 := by rw [h]; rfl
  simp at hlength

theorem classifyText_joined (text : String) :
    classifyText runLine ("--arg=" ++ text) =
      .ok (.option ("--arg=" ++ text) ⟨some argOption, "--arg", some text⟩) := by
  have hchars : ("--arg=" ++ text).toList =
      '-' :: '-' :: 'a' :: 'r' :: 'g' :: '=' :: text.toList := String.toList_append
  have hnone : named? runLine ("--arg=" ++ text) = none := by
    apply named?_eq_none
    intro hmem
    have hnames : ∀ name ∈ allNames runLine, '=' ∉ name.toList := by decide
    exact hnames _ hmem (by simp [hchars])
  have hsplit : splitEquals? ("--arg=" ++ text).toList = some ("--arg".toList, text.toList) := by
    rw [hchars]
    rfl
  have hnamed : named? runLine "--arg" = some argOption := rfl
  have hhead : ("--arg=" ++ text).toList.head? = some '-' := by rw [hchars]; rfl
  have hlength : ("--arg=" ++ text).toList.length ≠ 1 := by simp [hchars]
  simp only [classifyText, hhead, hnone, hlength, hsplit, hnamed, Option.filter_some,
    String.ofList_toList, ne_eq, not_true_eq_false, Option.isSome_none, Option.isSome_some,
    Bool.false_eq_true, if_false, if_true]
  rfl

theorem classifyAll_option (o : ArgOption) {words : List Value} {items : List Item}
    (hitems : classifyAll runLine words = .ok items) :
    classifyAll runLine (o.words.map .str ++ words) = .ok (o.items ++ items) := by
  obtain ⟨text, joined, hundashed⟩ := o
  cases joined with
  | false =>
      exact classifyAll_cons (by decide) rfl
        (classifyAll_cons hundashed.ne_mark (classifyText_of_undashed runLine hundashed) hitems)
  | true => exact classifyAll_cons (ne_mark_joined text) (classifyText_joined text) hitems

theorem classifyAll_options (options : List ArgOption) {words : List Value} {items : List Item}
    (hitems : classifyAll runLine words = .ok items) :
    classifyAll runLine ((options.flatMap ArgOption.words).map .str ++ words) =
      .ok (options.flatMap ArgOption.items ++ items) := by
  induction options with
  | nil => exact hitems
  | cons o options ih =>
      rw [List.flatMap_cons, List.flatMap_cons, List.map_append, List.append_assoc,
        List.append_assoc]
      exact classifyAll_option o ih

-- An option is read off its words, whatever stands behind them.
theorem scan_option (positional : PositionalSpec) (o : ArgOption) (rest : List Item) :
    scan runLine positional (o.items ++ rest) =
      .after [o.use] [] (scan runLine positional rest) := by
  obtain ⟨text, joined, hundashed⟩ := o
  have htakes : argOption.takesArgument = true := rfl
  cases joined with
  | false =>
      simp only [ArgOption.items, Bool.false_eq_true, if_false, List.cons_append,
        List.nil_append, scan, usesOf, htakes, if_true]
      rfl
  | true =>
      simp only [ArgOption.items, if_true, List.cons_append, List.nil_append, scan, usesOf,
        cluster_of_takesArgument htakes, useWith_of_undashed _ hundashed]
      rfl

theorem scan_options (positional : PositionalSpec) (options : List ArgOption)
    (rest : List Item) :
    scan runLine positional (options.flatMap ArgOption.items ++ rest) =
      .after (options.map ArgOption.use) [] (scan runLine positional rest) := by
  induction options with
  | nil => exact (Reading.after_nil _).symm
  | cons o options ih =>
      rw [List.flatMap_cons, List.append_assoc, scan_option, ih, Reading.after_after]
      rfl

-- The deck is the one word that belongs to no option.
theorem scan_deck (word : Value) (after : List ArgOption) :
    scan runLine (.one "deck") (.plain word :: after.flatMap ArgOption.items) =
      .after [.positional [word]] [] (scan runLine .nothing (after.flatMap ArgOption.items)) := by
  cases after with
  | nil => rfl
  | cons o after =>
      obtain ⟨text, joined, -⟩ := o
      cases joined <;> rfl

-- The words behind the command are read as the uses of the options, with the deck between them.
theorem read_operands (line : DeckLine) :
    Options.read runLine (line.operands.map .str) = .ok (line.uses, .ok []) := by
  obtain ⟨_, before, deck, after, hundashed⟩ := line
  have hafter : classifyAll runLine ((after.flatMap ArgOption.words).map .str) =
      .ok (after.flatMap ArgOption.items) := by
    have hitems : classifyAll runLine [] = .ok [] := rfl
    simpa only [List.append_nil] using classifyAll_options after hitems
  have hitems := classifyAll_options before
    (classifyAll_cons hundashed.ne_mark (classifyText_of_undashed runLine hundashed) hafter)
  have hend : scan runLine .nothing (after.flatMap ArgOption.items) =
      .after (after.map ArgOption.use) [] (scan runLine .nothing []) := by
    simpa only [List.append_nil] using scan_options .nothing after []
  have hscan : scan runLine (.one "deck")
      (before.flatMap ArgOption.items ++ .plain (.str deck) :: after.flatMap ArgOption.items) =
        (before.map ArgOption.use ++ .positional [.str deck] :: after.map ArgOption.use,
          .ok []) := by
    rw [scan_options, scan_deck, hend, Reading.after_after, Reading.after_after, scan,
      Reading.after, List.append_nil, List.append_assoc]
    rfl
  rw [DeckLine.operands, List.map_append, List.map_cons, Options.read, hitems]
  exact congrArg Except.ok hscan

variable {yaml : Yaml.Reader}

theorem argValue_text (reporter : String) {o : ArgOption}
    (h : ∀ fault, yaml.read (.value (.str o.text)) ≠ .error fault) :
    argValue yaml reporter [.str o.text] = .ok (o.value yaml) := by
  have hscalar : scalarOf yaml (.str o.text) = .ok (o.value yaml) := by
    rw [scalarOf, ArgOption.value]
    cases hvalue : yaml.read (.value (.str o.text)) with
    | error fault => exact absurd hvalue (h fault)
    | ok v? => rfl
  rw [argValue, hscalar]

theorem argsOf_concat (options : List ArgOption) (o : ArgOption) :
    argsOf yaml (options ++ [o]) = some ((argsOf yaml options).getD [] ++ [o.value yaml]) := by
  cases options <;> simp [argsOf]

-- Each option adds its argument behind those of the options before it.
theorem foldlM_useRun (deck? : Option String) (seen : List ArgOption) {options : List ArgOption}
    (h : AllConvert yaml options) :
    (options.map ArgOption.use).foldlM (useRun yaml) ⟨deck?, argsOf yaml seen⟩ =
      .ok ⟨deck?, argsOf yaml (seen ++ options)⟩ := by
  induction options generalizing seen with
  | nil =>
      rw [List.append_nil]
      rfl
  | cons o options ih =>
      obtain ⟨ho, hoptions⟩ := List.forall_mem_cons.mp h
      have huse : useRun yaml ⟨deck?, argsOf yaml seen⟩ o.use =
          .ok ⟨deck?, argsOf yaml (seen ++ [o])⟩ := by
        rw [ArgOption.use, useRun, if_neg (by decide), argValue_text _ ho, argsOf_concat]
        rfl
      rw [List.map_cons, List.foldlM_cons, huse, List.append_cons seen o options]
      exact ih (seen ++ [o]) hoptions

-- The command asks for the deck to be run with the arguments of all options.
theorem request_operands (line : DeckLine) (h : AllConvert yaml line.options) :
    request yaml (.str "run") (line.operands.map .str) =
      .ok (.run line.deck (argsOf yaml line.options), []) := by
  obtain ⟨hbefore, hafter⟩ := List.forall_mem_append.mp h
  have huses : line.uses.foldlM (useRun yaml) ⟨none, none⟩ =
      .ok ⟨some line.deck, argsOf yaml line.options⟩ := by
    have hstart : (line.before.map ArgOption.use).foldlM (useRun yaml) ⟨none, none⟩ =
        .ok ⟨none, argsOf yaml line.before⟩ := foldlM_useRun none [] hbefore
    rw [DeckLine.uses, List.foldlM_append, hstart]
    exact foldlM_useRun (some line.deck) line.before hafter
  have hrun : carryOut (reporterOf "run") runLine (line.operands.map .str) (useRun yaml)
      (·.deck?.isSome) ⟨none, none⟩ = .ok (⟨some line.deck, argsOf yaml line.options⟩, []) := by
    rw [carryOut, read_operands]
    simp only [huses]
    rfl
  have hcommand : (Value.str "run").hashed = .ok () := rfl
  rw [request, hcommand]
  simp only [Value.text?, hrun]
  rfl

-- No option of the program starts like those of the command, which are left to it.
theorem passes_words (o : ArgOption) : ∀ text ∈ o.words, Passes mainLine text := by
  obtain ⟨text, joined, hundashed⟩ := o
  have hnames : (allNames mainLine).filter (·.startsWith "--arg") = [] := by decide +kernel
  cases joined with
  | false =>
      have hnone : candidates mainLine "--arg".toList = [] := congrArg (List.map _) hnames
      have hname : Passes mainLine "--arg" := ⟨by decide, exists_classifyText hnone⟩
      exact List.forall_mem_cons.mpr
        ⟨hname, List.forall_mem_singleton.mpr (passes_of_undashed mainLine hundashed)⟩
  | true =>
      have hnone : candidates mainLine ("--arg=" ++ text).toList = [] := by
        rw [String.toList_append]
        exact congrArg (List.map _) hnames
      exact List.forall_mem_singleton.mpr ⟨ne_mark_joined text, exists_classifyText hnone⟩

theorem passes_operands (line : DeckLine) : ∀ text ∈ line.operands, Passes mainLine text := by
  have hoptions (options : List ArgOption) :
      ∀ text ∈ options.flatMap ArgOption.words, Passes mainLine text := by
    intro text htext
    obtain ⟨o, -, hmem⟩ := List.mem_flatMap.mp htext
    exact passes_words o text hmem
  rw [DeckLine.operands, List.forall_mem_append, List.forall_mem_cons]
  exact ⟨hoptions line.before, passes_of_undashed mainLine line.undashed, hoptions line.after⟩

section

variable {command : String} {texts : List String}

-- The uses of the program's own line. All words behind a command belong to it.
def mainUses (verbose : Bool) (command : String) (texts : List String) : List Use :=
  (if verbose then [.option verboseOption []] else []) ++
    [.positional ((command :: texts).map .str)]

theorem read_mainLine (verbose : Bool) (hcommand : Undashed command)
    (htexts : ∀ text ∈ texts, Passes mainLine text) :
    Options.read mainLine ((flags verbose ++ command :: texts).map .str) =
      .ok (mainUses verbose command texts, .ok []) := by
  obtain ⟨items, hitems, hwords⟩ := exists_classifyAll htexts
  have hplain : classifyAll mainLine ((command :: texts).map .str) =
      .ok (.plain (.str command) :: items) :=
    classifyAll_cons hcommand.ne_mark (classifyText_of_undashed mainLine hcommand) hitems
  have hscan := scan_rest mainLine "command" (.str command) items
  rw [hwords] at hscan
  cases verbose with
  | false =>
      have hread : classifyAll mainLine ((flags false ++ command :: texts).map .str) = _ := hplain
      rw [Options.read, hread]
      exact congrArg Except.ok hscan
  | true =>
      have hread : classifyAll mainLine ((flags true ++ command :: texts).map .str) = _ :=
        classifyAll_cons (by decide) rfl hplain
      rw [Options.read, hread]
      exact congrArg Except.ok (congrArg (Reading.after [.option verboseOption []] []) hscan)

-- What a command asks for is what the program is asked for.
theorem parse_of_request (verbose : Bool) {requested : Request} (hcommand : Undashed command)
    (htexts : ∀ text ∈ texts, Passes mainLine text)
    (hrequest : request yaml (.str command) (texts.map .str) = .ok (requested, [])) :
    parse yaml ((flags verbose ++ command :: texts).map .str) = .ok ⟨verbose, requested⟩ := by
  have hlast (start : MainState) :
      [Use.positional ((command :: texts).map .str)].foldlM (useMain yaml) start =
        .ok { start with request? := some (requested, []) } := by
    rw [List.foldlM_cons, List.map_cons, useMain, hrequest]
    rfl
  have huses : (mainUses verbose command texts).foldlM (useMain yaml) ⟨false, none⟩ =
      .ok ⟨verbose, some (requested, [])⟩ := by
    rw [mainUses, List.foldlM_append]
    cases verbose <;> exact hlast _
  rw [parse, carryOut, read_mainLine verbose hcommand htexts]
  simp only [huses]
  rfl

end

-- A command line that runs a deck asks for just that, with the arguments of its options in order.
theorem parse_words (line : DeckLine) (h : AllConvert yaml line.options) :
    parse yaml (line.words.map .str) =
      .ok ⟨line.verbose, .run line.deck (argsOf yaml line.options)⟩ :=
  parse_of_request line.verbose (by decide) (passes_operands line) (request_operands line h)

end Command

end StepFlow
