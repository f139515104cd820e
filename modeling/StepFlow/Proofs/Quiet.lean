import StepFlow.Pipeline

namespace StepFlow

variable {α β : Type}

def Event.isRecord (event : Event) : Bool :=
  event.record?.isSome

theorem Event.note?_eq_none_of_isRecord {event : Event} (h : event.isRecord = true) :
    event.note? = none := by
  cases event <;> simp [Event.isRecord, Event.record?, Event.note?] at h ⊢

def Reached.quiet (reached : Reached α) : Reached α :=
  { reached with events := reached.events.filter fun event => !event.isRecord }

-- No note is a log record.
theorem Reached.notes_quiet (reached : Reached α) : reached.quiet.notes = reached.notes := by
  simp only [Reached.notes, Reached.quiet]
  induction reached.events with
  | nil => rfl
  | cons event events ih =>
      by_cases h : event.isRecord = true
      · simp [h, ih, Event.note?_eq_none_of_isRecord h]
      · simp [h, List.filterMap_cons, ih]

-- A run that comes to what another one comes to, after some notes of its own.
structure Reached.EndsAs (whole : Reached α) (before : List String) (rest : Reached α) : Prop where
  outcome : whole.outcome = rest.outcome
  store : whole.store = rest.store
  notes : whole.notes = before ++ rest.notes

theorem Reached.EndsAs.trans {whole middle rest : Reached α} {before further : List String}
    (h : whole.EndsAs before middle) (hmiddle : middle.EndsAs further rest) :
    whole.EndsAs (before ++ further) rest := by
  refine ⟨h.outcome.trans hmiddle.outcome, h.store.trans hmiddle.store, ?_⟩
  rw [h.notes, hmiddle.notes, List.append_assoc]

theorem Reached.endsAs_of_quiet_eq {whole rest : Reached α} {first : Reached β}
    (h : whole.quiet =
      ⟨rest.outcome, first.quiet.events ++ rest.quiet.events, rest.store⟩) :
    whole.EndsAs first.notes rest := by
  have houtcome := congrArg Reached.outcome h
  have hstore := congrArg Reached.store h
  refine ⟨houtcome, hstore, ?_⟩
  rw [← Reached.notes_quiet whole, h, ← Reached.notes_quiet first, ← Reached.notes_quiet rest]
  exact List.filterMap_append

theorem Reached.endsAs_nil_of_quiet_eq {whole rest : Reached α} (h : whole.quiet = rest.quiet) :
    whole.EndsAs [] rest := by
  have houtcome := congrArg Reached.outcome h
  have hstore := congrArg Reached.store h
  refine ⟨houtcome, hstore, ?_⟩
  rw [List.nil_append, ← Reached.notes_quiet whole, h, Reached.notes_quiet]

namespace Run

def quiet (run : Run α) : Run α :=
  fun store => (run store).quiet

-- Two runs of which only the log records can differ.
def SameButRecords (run other : Run α) : Prop :=
  ∀ store, (run store).outcome = (other store).outcome ∧
    (run store).quiet.events = (other store).quiet.events ∧
    (run store).store = (other store).store

theorem sameButRecords_iff {run other : Run α} :
    run.SameButRecords other ↔ run.quiet = other.quiet := by
  constructor
  · intro h
    ext store
    obtain ⟨ho, he, hs⟩ := h store
    simp only [quiet, Reached.quiet, Reached.mk.injEq] at he ⊢
    exact ⟨ho, he, hs⟩
  · intro h store
    have hstore := congrFun h store
    simp only [quiet, Reached.quiet, Reached.mk.injEq] at hstore ⊢
    exact hstore

theorem outcome_quiet (run : Run α) (store : Store) :
    (run.quiet store).outcome = (run store).outcome := rfl

theorem store_quiet (run : Run α) (store : Store) :
    (run.quiet store).store = (run store).store := rfl

theorem quiet_pure (a : α) : (pure a : Run α).quiet = pure a := rfl

theorem quiet_fail (fault : Fault) : (fail fault : Run α).quiet = fail fault := rfl

theorem quiet_log (logger : Logger) (message : String) : (log logger message).quiet = pure () := rfl

theorem quiet_bind (run : Run α) (next : α → Run β) :
    (run >>= next).quiet = run.quiet >>= fun a => (next a).quiet := by
  ext store
  cases h : (run store).outcome with
  | error fault =>
      have hq : (run.quiet store).outcome = .error fault := h
      rw [bind_of_error hq, quiet, bind_of_error h]
      rfl
  | ok a =>
      have hq : (run.quiet store).outcome = .ok a := h
      rw [bind_of_ok hq, quiet, bind_of_ok h]
      simp only [Reached.quiet, List.filter_append]
      rfl

end Run

namespace Pipeline

theorem announceInput_of_isNamed {first : Callable} (h : first.IsNamed) (count : Nat) :
    announceInput first count =
      Run.log .engine s!"pipeline input {first.displayName} with {count} argument(s)" := by
  rw [announceInput, Callable.displayForm_of_isNamed h]
  rfl

-- A first step without a display name is not called.
theorem runSteps_of_not_isNamed {first : Callable} (h : ¬ first.IsNamed) (host : Host)
    (rest : List Callable) (args : List Value) :
    runSteps host first rest args = Run.fail (.unmet .longNumber) := by
  rw [runSteps, announceInput, Callable.displayForm_of_not_isNamed h]
  rfl

-- What an announcement does besides its record: it fails for a step without a display name.
def announced (step : Callable) : Run Unit :=
  Run.lift ((Fault.met step.displayForm).map fun _ => ())

theorem announced_of_isNamed {step : Callable} (h : step.IsNamed) : announced step = pure () := by
  rw [announced, Callable.displayForm_of_isNamed h]
  rfl

theorem announced_of_not_isNamed {step : Callable} (h : ¬ step.IsNamed) :
    announced step = Run.fail (.unmet .longNumber) := by
  rw [announced, Callable.displayForm_of_not_isNamed h]
  rfl

theorem quiet_announceInput (first : Callable) (count : Nat) :
    (announceInput first count).quiet = announced first := by
  rw [announceInput, announced]
  cases first.displayForm <;> rfl

theorem quiet_announceStep (index : Nat) (step : Callable) :
    (announceStep index step).quiet = announced step := by
  rw [announceStep, announced]
  cases step.displayForm <;> rfl

-- What is left of a step of a run without its record: a step is called if it has a display name.
def called (host : Host) (step : Callable) (args : List Value) : Run Value :=
  announced step >>= fun _ => (step.call host args).quiet

theorem called_of_isNamed {step : Callable} (h : step.IsNamed) (host : Host)
    (args : List Value) : called host step args = (step.call host args).quiet := by
  rw [called, announced_of_isNamed h, Run.pure_bind]

theorem called_of_not_isNamed {step : Callable} (h : ¬ step.IsNamed) (host : Host)
    (args : List Value) : called host step args = Run.fail (.unmet .longNumber) := by
  rw [called, announced_of_not_isNamed h]
  rfl

-- A first step that leaves a note.
def noting : Callable :=
  .function 101 ⟨"load", [], .note "loading" (.lit (.dict [])), none⟩

-- An object whose step name is a number that is too long to be shown.
def unnamed : Callable :=
  .shell 102 "<thing>" none (some (.int longNumber)) false
    ⟨"_f", [BuiltIn.param "env"], .lit (.dict []), none⟩

theorem not_isNamed_unnamed : ¬ unnamed.IsNamed := by
  have htruthy : (Value.int longNumber).truthy = true :=
    bne_iff_ne.mpr (Int.natCast_ne_zero.mpr (Nat.ne_of_gt longNumber_pos))
  have hname : unnamed.displayForm = (Value.int longNumber).plainForm := by
    simp only [unnamed, Callable.displayForm, Option.filter, htruthy]
    rfl
  rw [Callable.IsNamed, hname, Value.plainForm, Value.hasLongNumber_longNumber]
  rintro ⟨_, h⟩
  cases h

-- One step after another value.
def advance (host : Host) (env : Value) (step : Callable) : Run Value :=
  called host step [env.snapshot]

-- Without the records the position of a step does not matter.
theorem quiet_runFrom (host : Host) (index : Nat) (steps : List Callable) (env : Value) :
    (runFrom host index steps env).quiet = steps.foldlM (advance host) env := by
  induction steps generalizing index env with
  | nil => rw [runFrom_nil, Run.quiet_pure, List.foldlM_nil]
  | cons step steps ih =>
      rw [runFrom_cons, Run.quiet_bind, quiet_announceStep, List.foldlM_cons, advance, called,
        Run.bind_assoc]
      simp only [Run.quiet_bind, ih]

theorem quiet_runSteps (host : Host) (first : Callable) (rest : List Callable)
    (args : List Value) :
    (runSteps host first rest args).quiet =
      called host first args >>= rest.foldlM (advance host) := by
  rw [runSteps, Run.quiet_bind, quiet_announceInput, called, Run.bind_assoc]
  simp only [Run.quiet_bind, quiet_runFrom]

-- A list of steps as it is handed to a run.
def stepList (steps : List Callable) : Value :=
  .list (steps.map .callable)

theorem callables_map (index : Nat) (steps : List Callable) :
    callables index (steps.map .callable) = .ok steps := by
  induction steps generalizing index with
  | nil => rfl
  | cons step steps ih => simp [callables, Value.callable?, ih, Except.map]

theorem ofItems_map_cons (first : Callable) (rest : List Callable) :
    ofItems ((first :: rest).map .callable) = .ok (first, rest) := by
  rw [ofItems, callables_map]

-- A run whose steps and arguments have the right shape.
theorem run_stepList (host : Host) {args : Value} {items : List Value}
    (hargs : args.items? = some items) (first : Callable) (rest : List Callable) :
    run host args (stepList (first :: rest)) = runSteps host first rest items := by
  have hsteps : ofValue (stepList (first :: rest)) = .ok (first, rest) :=
    ofItems_map_cons first rest
  simp only [run, hsteps, runArguments, hargs]
  rfl

section

variable (host : Host) {args : Value} {items : List Value} (hargs : args.items? = some items)
  {steps : List Callable} (hne : steps ≠ []) (more : List Callable)

include hargs hne

-- A run goes on after its first steps from what these have returned.
theorem quiet_run_append :
    (run host args (stepList (steps ++ more))).quiet =
      (run host args (stepList steps)).quiet >>= more.foldlM (advance host) := by
  cases steps with
  | nil => exact absurd rfl hne
  | cons first rest =>
      rw [List.cons_append, run_stepList host hargs, run_stepList host hargs, quiet_runSteps,
        quiet_runSteps, Run.bind_assoc]
      congr 1
      funext env
      exact List.foldlM_append

theorem endsAs_run_append {store : Store} {v : Value}
    (h : (run host args (stepList steps) store).outcome = .ok v) (index : Nat) :
    (run host args (stepList (steps ++ more)) store).EndsAs
      (run host args (stepList steps) store).notes
      (runFrom host index more v (run host args (stepList steps) store).store) := by
  apply Reached.endsAs_of_quiet_eq
  have hquiet := congrFun (quiet_run_append host hargs hne more) store
  rw [Run.bind_of_ok ((Run.outcome_quiet ..).trans h), ← quiet_runFrom host index] at hquiet
  exact hquiet

-- Steps that fail are all that is run.
theorem endsAs_run_append_of_error {store : Store} {fault : Fault}
    (h : (run host args (stepList steps) store).outcome = .error fault) :
    (run host args (stepList (steps ++ more)) store).EndsAs []
      (run host args (stepList steps) store) := by
  apply Reached.endsAs_nil_of_quiet_eq
  have hquiet := congrFun (quiet_run_append host hargs hne more) store
  rw [Run.bind_of_error ((Run.outcome_quiet ..).trans h), ← h] at hquiet
  exact hquiet

end

end Pipeline

end StepFlow
