import StepFlow.Files
import StepFlow.Proofs.DeckLine
import StepFlow.Proofs.DeckLoading

namespace StepFlow.Command

namespace Transcript

variable {written other : Transcript}

theorem stdout_add (event : Event) (h : written.stdout = other.stdout) :
    (written.add event).stdout = (other.add event).stdout := by
  cases event with
  | log logger message =>
      simp only [add]
      split <;> split <;> exact h
  | output text => exact congrArg (· ++ text) h
  | note _ | complaint _ | verbose => exact h

-- The output does not depend on what goes to the error output.
theorem stdout_foldl_add (events : List Event) (h : written.stdout = other.stdout) :
    (events.foldl add written).stdout = (events.foldl add other).stdout := by
  induction events generalizing written other with
  | nil => exact h
  | cons event events ih => exact ih (stdout_add event h)

end Transcript

-- Events that add a text to each of the two outputs, and do nothing else.
structure Adds (said : List Event) (out err : String) : Prop where
  notes : said.filterMap Event.note? = []
  written : ∀ written : Transcript, said.foldl Transcript.add written =
    ⟨written.verbose, written.stdout ++ out, written.stderr ++ err⟩

theorem adds_nil : Adds [] "" "" :=
  ⟨rfl, fun written => by simp⟩

theorem adds_output (text : String) : Adds [.output text] text "" :=
  ⟨rfl, fun written => by simp [Transcript.add]⟩

theorem adds_complaint (text : String) : Adds [.complaint text] "" text :=
  ⟨rfl, fun written => by simp [Transcript.add]⟩

-- How what running a deck comes to is answered: what the command line comes to, and what it adds to
-- its output and to its error output. A result can be one that cannot be shown.
inductive Answers : Except Fault Value → Except Fault Nat → String → String → Prop
  | shown {v : Value} {text : String} : v.quotedForm = .ok text →
      Answers (.ok v) (.ok 0) s!"Result: {text}\n" ""
  | notShown {v : Value} {cause : Unmet} : v.quotedForm = .error cause →
      Answers (.ok v) (.error (.unmet cause)) "" ""
  | reported {fault : Fault} : fault.category.isPipeline = true →
      Answers (.error fault) (.error (.exit 2)) "" s!"Error: {fault.message}\n"
  | passedOn {fault : Fault} : fault.category.isPipeline = false →
      Answers (.error fault) (.error fault) "" ""

-- Each outcome has one answer.
section

variable {v : Value} {fault : Fault} {outcome : Except Fault Nat} {out err : String}

theorem Answers.of_shown {text : String} (h : Answers (.ok v) outcome out err)
    (htext : v.quotedForm = .ok text) :
    outcome = .ok 0 ∧ out = s!"Result: {text}\n" ∧ err = "" := by
  cases h with
  | shown hshown =>
      cases hshown.symm.trans htext
      exact ⟨rfl, rfl, rfl⟩
  | notShown hcause => cases hcause.symm.trans htext

theorem Answers.of_notShown {cause : Unmet} (h : Answers (.ok v) outcome out err)
    (hcause : v.quotedForm = .error cause) :
    outcome = .error (.unmet cause) ∧ out = "" ∧ err = "" := by
  cases h with
  | shown hshown => cases hshown.symm.trans hcause
  | notShown hother =>
      cases hother.symm.trans hcause
      exact ⟨rfl, rfl, rfl⟩

theorem Answers.of_isPipeline (h : Answers (.error fault) outcome out err)
    (hcategory : fault.category.isPipeline = true) :
    outcome = .error (.exit 2) ∧ out = "" ∧ err = s!"Error: {fault.message}\n" := by
  cases h with
  | reported _ => exact ⟨rfl, rfl, rfl⟩
  | passedOn hother => cases hother.symm.trans hcategory

end

-- Every outcome of running a deck is answered, after all that has happened before.
theorem runDeck_answers (world : World) (host : Host) (deck : String) (args : Value)
    (store : Store) :
    let run := DeckFile.run world host Registry.default deck args store
    ∃ outcome said out err, Answers run.outcome outcome out err ∧ Adds said out err ∧
      runDeck world host deck args store = ⟨outcome, run.events ++ said, run.store⟩ := by
  intro run
  have hattempt : Run.attempt (DeckFile.run world host Registry.default deck args) store =
      ⟨.ok run.outcome, run.events, run.store⟩ := rfl
  rw [runDeck, Run.bind_of_ok (congrArg Reached.outcome hattempt), hattempt]
  cases houtcome : run.outcome with
  | ok v =>
      cases hshown : v.quotedForm with
      | ok text =>
          refine ⟨_, _, _, _, .shown hshown, adds_output _, ?_⟩
          simp only [hshown]
          rfl
      | error cause =>
          refine ⟨_, _, _, _, .notShown hshown, adds_nil, ?_⟩
          simp only [hshown]
          rfl
  | error fault =>
      cases hcategory : fault.category.isPipeline with
      | true =>
          refine ⟨_, _, _, _, .reported hcategory, adds_complaint _, ?_⟩
          simp only [hcategory]
          rfl
      | false =>
          refine ⟨_, _, _, _, .passedOn hcategory, adds_nil, ?_⟩
          simp only [hcategory]
          rfl

-- What happens before a command is carried out.
def opening (verbose : Bool) : List Event :=
  if verbose then [.verbose] else []

theorem execute_words {world : World} {host : Host} {line : DeckLine} {store : Store}
    {reached : Reached Nat} (h : AllConvert world.yaml line.options)
    (hreached : runDeck world host line.deck (line.args world.yaml) store = reached) :
    execute world host (line.words.map .str) store =
      ⟨reached.outcome, opening line.verbose ++ reached.events, reached.store⟩ := by
  subst hreached
  rw [execute, parse_words line h]
  obtain ⟨verbose, before, deck, after, -⟩ := line
  cases verbose <;> rfl

-- A command line is answered by what running its deck comes to, and leaves its store.
theorem execute_answers (world : World) (host : Host) (line : DeckLine)
    (h : AllConvert world.yaml line.options) (store : Store) :
    let run := DeckFile.run world host Registry.default line.deck (line.args world.yaml) store
    ∃ outcome said out err, Answers run.outcome outcome out err ∧ Adds said out err ∧
      execute world host (line.words.map .str) store =
        ⟨outcome, opening line.verbose ++ run.events ++ said, run.store⟩ := by
  intro run
  obtain ⟨outcome, said, out, err, hanswers, hadds, hrun⟩ :=
    runDeck_answers world host line.deck (line.args world.yaml) store
  refine ⟨outcome, said, out, err, hanswers, hadds, ?_⟩
  rw [List.append_assoc]
  exact execute_words h hrun

-- What the run has written to the output is there, verbose or not; to the error output log records
-- may have gone. The answer stands behind it.
theorem Transcript.ofEvents_answer (verbose : Bool) (events : List Event) {said : List Event}
    {out err : String} (h : Adds said out err) :
    let written := ofEvents (opening verbose ++ events ++ said)
    written.stdout = (ofEvents events).stdout ++ out ∧
      written.stderr = (ofEvents (opening verbose ++ events)).stderr ++ err := by
  intro written
  have hwritten : written = said.foldl add (ofEvents (opening verbose ++ events)) :=
    List.foldl_append
  have hstdout : (ofEvents (opening verbose ++ events)).stdout = (ofEvents events).stdout := by
    rw [ofEvents, List.foldl_append]
    exact stdout_foldl_add events (by cases verbose <;> rfl)
  rw [hwritten, h.written, ← hstdout]
  exact ⟨rfl, rfl⟩

-- Running a deck from the command line agrees with running it with the arguments of the options, in
-- the order of the line and wherever they stand in it.
theorem execute_answers_run (world : World) (host : Host) (line : DeckLine)
    (h : AllConvert world.yaml line.options) (store : Store) :
    let run := DeckFile.run world host Registry.default line.deck (line.args world.yaml) store
    let reached := execute world host (line.words.map .str) store
    let written := Transcript.ofEvents reached.events
    (∃ out err, Answers run.outcome reached.outcome out err ∧
      written.stdout = (Transcript.ofEvents run.events).stdout ++ out ∧
      written.stderr =
        (Transcript.ofEvents (opening line.verbose ++ run.events)).stderr ++ err) ∧
    reached.notes = run.notes ∧ reached.store = run.store := by
  intro run reached written
  obtain ⟨outcome, said, out, err, hanswers, hadds, hreached⟩ :=
    execute_answers world host line h store
  have hnotes : reached.notes = run.notes := by
    have hopening : (opening line.verbose).filterMap Event.note? = [] := by
      cases line.verbose <;> rfl
    simp only [reached, hreached, Reached.notes, List.filterMap_append, hopening, hadds.notes,
      List.nil_append, List.append_nil, run]
  obtain ⟨hstdout, hstderr⟩ := Transcript.ofEvents_answer line.verbose run.events hadds
  refine ⟨⟨out, err, ?_, ?_, ?_⟩, hnotes, congrArg Reached.store hreached⟩
  · simp only [reached, hreached]
    exact hanswers
  · simp only [written, reached, hreached]
    exact hstdout
  · simp only [written, reached, hreached]
    exact hstderr

-- The library and texts in files, and nothing else.
def textWorld (files : List (String × String)) : World :=
  { World.bare with
    lookup := (Files.ofList (files.map fun (path, text) => (path, text.toUTF8.toList))).lookup }

-- What the deck of a line comes to by itself, and what the line comes to.
def DeckLine.run (line : DeckLine) (world : World) : Reached Value :=
  DeckFile.run world world.host Registry.default line.deck (line.args world.yaml) .start

def DeckLine.reached (line : DeckLine) (world : World) : Reached Nat :=
  execute world world.host (line.words.map .str) .start

-- A deck of the step that does nothing, verbosely given an environment, and given a number.
theorem execute_answers_run_nop :
    let world := textWorld [("deck.yaml", "steps: [nop]\n")]
    let given : DeckLine := ⟨true, [⟨"a: 1", true, by decide⟩], "deck.yaml", [], by decide⟩
    let refused : DeckLine := ⟨false, [], "deck.yaml", [⟨"7", false, by decide⟩], by decide⟩
    let written (line : DeckLine) := Transcript.ofEvents (line.reached world).events
    (AllConvert world.yaml given.options ∧ (given.reached world).outcome = .ok 0 ∧
      (written given).stdout = "Result: \x7b'a': 1\x7d\n") ∧
    AllConvert world.yaml refused.options ∧ (refused.reached world).outcome = .error (.exit 2) ∧
      (written refused).stdout = "" ∧ (written refused).stderr =
        "Error: intermediate step nop_step expects an environment, got int.\n" := by
  intro world given refused written
  refine ⟨?_, ?_⟩
  · have hconvert : AllConvert world.yaml given.options := by decide +kernel
    have hrun : (∃ v, (given.run world).outcome = .ok v ∧
          ∃ text, v.quotedForm = .ok text ∧ text = "\x7b'a': 1\x7d") ∧
        (Transcript.ofEvents (given.run world).events).stdout = "" := by decide +kernel
    obtain ⟨⟨v, hv, _, hshown, rfl⟩, hbefore⟩ := hrun
    obtain ⟨⟨out, err, hanswers, hstdout, -⟩, -⟩ :=
      execute_answers_run world world.host given hconvert .start
    change Answers (given.run world).outcome _ _ _ at hanswers
    rw [hv] at hanswers
    obtain ⟨houtcome, rfl, -⟩ := hanswers.of_shown hshown
    exact ⟨hconvert, houtcome, hstdout.trans (by rw [← DeckLine.run, hbefore]; rfl)⟩
  · have hconvert : AllConvert world.yaml refused.options := by decide +kernel
    have hrun : (∃ fault, (refused.run world).outcome = .error fault ∧
          fault.category.isPipeline = true ∧
          fault.message = "intermediate step nop_step expects an environment, got int.") ∧
        (Transcript.ofEvents (refused.run world).events).stdout = "" ∧
        (Transcript.ofEvents (opening refused.verbose ++ (refused.run world).events)).stderr =
          "" := by decide +kernel
    obtain ⟨⟨fault, hfault, hcategory, hmessage⟩, hbefore, hlogged⟩ := hrun
    obtain ⟨⟨out, err, hanswers, hstdout, hstderr⟩, -⟩ :=
      execute_answers_run world world.host refused hconvert .start
    change Answers (refused.run world).outcome _ _ _ at hanswers
    rw [hfault] at hanswers
    obtain ⟨houtcome, rfl, rfl⟩ := hanswers.of_isPipeline hcategory
    rw [hmessage] at hstderr
    refine ⟨hconvert, houtcome, ?_, ?_⟩
    · exact hstdout.trans (by rw [← DeckLine.run, hbefore]; rfl)
    · exact hstderr.trans (by rw [← DeckLine.run, hlogged]; rfl)

theorem DeckLine.reached_answers {line : DeckLine} {world : World} {result : Except Fault Value}
    (h : AllConvert world.yaml line.options) (hrun : (line.run world).outcome = result) :
    ∃ outcome said out err, Answers result outcome out err ∧ Adds said out err ∧
      line.reached world =
        ⟨outcome, opening line.verbose ++ (line.run world).events ++ said,
          (line.run world).store⟩ := by
  subst hrun
  exact execute_answers world world.host line h .start

-- A result can be too long to be shown, which is an error of its own. And a step that runs a deck
-- from the command line itself shows the result of that deck, whatever comes after it.
theorem answers_distinguished :
    let world := textWorld
      [("long.yaml", "steps: ['envpipe.selfcheck:load_value', 'envpipe.selfcheck:quotient']\n"),
        ("outer.yaml", "args: [[run, inner.yaml]]\nsteps: ['envpipe.cli:main', nop]\n"),
        ("inner.yaml", "args: [7]\nsteps: ['envpipe.selfcheck:load_value']\n")]
    let long : DeckLine := ⟨false, [], "long.yaml", [⟨"1e5000", false, by decide⟩], by decide⟩
    let nested : DeckLine := ⟨false, [], "outer.yaml", [], by decide⟩
    (AllConvert world.yaml long.options ∧ (∃ v, (long.run world).outcome = .ok v) ∧
      ∃ fault, (long.reached world).outcome = .error fault ∧ fault.category = .value) ∧
    AllConvert world.yaml nested.options ∧
      (∃ fault, (nested.run world).outcome = .error fault ∧ fault.category = .contract) ∧
      (nested.reached world).outcome = .error (.exit 2) ∧
      (Transcript.ofEvents (nested.reached world).events).stdout =
        "Result: \x7b'var1': 7\x7d\n" := by
  intro world long nested
  refine ⟨?_, ?_⟩
  · have hconvert : AllConvert world.yaml long.options := by decide +kernel
    have hrun : ∃ v, (long.run world).outcome = .ok v ∧ v.hasLongNumber = true := by
      decide +kernel
    obtain ⟨v, hv, hlong⟩ := hrun
    have hshown : v.quotedForm = .error .longNumber := by
      rw [Value.quotedForm, if_pos hlong]
    obtain ⟨outcome, said, out, err, hanswers, -, hreached⟩ := DeckLine.reached_answers hconvert hv
    obtain ⟨rfl, -⟩ := hanswers.of_notShown hshown
    exact ⟨hconvert, ⟨v, hv⟩, _, congrArg Reached.outcome hreached, rfl⟩
  · have hconvert : AllConvert world.yaml nested.options := nofun
    have hrun : (∃ fault, (nested.run world).outcome = .error fault ∧ fault.category = .contract) ∧
        (Transcript.ofEvents (nested.run world).events).stdout = "Result: \x7b'var1': 7\x7d\n" := by
      decide +kernel
    obtain ⟨⟨fault, hfault, hcategory⟩, hbefore⟩ := hrun
    obtain ⟨outcome, said, out, err, hanswers, hadds, hreached⟩ :=
      DeckLine.reached_answers hconvert hfault
    obtain ⟨rfl, rfl, -⟩ := hanswers.of_isPipeline (by rw [hcategory]; rfl)
    obtain ⟨hstdout, -⟩ :=
      Transcript.ofEvents_answer nested.verbose (nested.run world).events hadds
    refine ⟨hconvert, ⟨fault, hfault, hcategory⟩, congrArg Reached.outcome hreached, ?_⟩
    rw [hbefore] at hstdout
    rw [hreached]
    exact hstdout

end StepFlow.Command
