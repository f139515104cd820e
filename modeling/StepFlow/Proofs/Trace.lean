import StepFlow.Native.Host
import StepFlow.Proofs.Quiet

namespace StepFlow

-- A step as it is called: with which arguments and from which store.
structure StepCall where
  step : Callable
  args : List Value
  store : Store

namespace StepCall

-- What a call comes to.
def reached (host : Host) (call : StepCall) : Reached Value :=
  call.step.call host call.args call.store

-- The log record of the call at an index of a run. The first one counts its arguments, the
-- others are numbered.
def record (call : StepCall) : Nat → Event
  | 0 =>
    .log .engine s!"pipeline input {call.step.displayName} with {call.args.length} argument(s)"
  | index + 1 => .log .engine s!"pipeline step {index + 1}: {call.step.displayName}"

-- What stands in the log of a run for the call at an index: the record of the call, then all that
-- happens in it, with the records of the pipelines that are run there.
def logged (host : Host) (call : StepCall) (index : Nat) : List Event :=
  call.record index :: (call.reached host).events

theorem filterMap_note?_logged (host : Host) (call : StepCall) (index : Nat) :
    (call.logged host index).filterMap Event.note? = (call.reached host).notes := by
  cases index <;> rfl

end StepCall

namespace Pipeline

-- The calls of steps in a row when the first is called with arguments from a store. A step
-- without a display name is not called.
def calls (host : Host) : List Callable → List Value → Store → List StepCall
  | [], _, _ => []
  | step :: steps, args, store =>
    if step.IsNamed then
      let call : StepCall := ⟨step, args, store⟩
      call ::
        match (call.reached host).outcome with
        | .ok v => calls host steps [v.snapshot] (call.reached host).store
        | .error _ => []
    else []

-- What a list of calls has to be for the calls of steps in a row. Each step is called once at most
-- and in its turn, a later one only with a view of what the one before it has returned and from
-- the store that this has left. There is no further call exactly if there is no further step, a
-- step has failed or the next step has no display name.
structure IsTrace (host : Host) (steps : List Callable) (args : List Value) (store : Store)
    (made : List StepCall) : Prop where
  inOrder : made.map StepCall.step = steps.take made.length
  starts : made[0]? =
    (steps[0]?.filter fun step => step.IsNamed).map fun step => ⟨step, args, store⟩
  continues : ∀ {index call next}, made[index]? = some call → made[index + 1]? = some next →
    ∃ v, (call.reached host).outcome = .ok v ∧ next.args = [v.snapshot] ∧
      next.store = (call.reached host).store
  ends : ∀ {index call}, made[index]? = some call →
    (made[index + 1]? = none ↔
      steps.length = index + 1 ∨ (∃ fault, (call.reached host).outcome = .error fault) ∨
        ∃ next, steps[index + 1]? = some next ∧ ¬ next.IsNamed)

-- How a run of steps ends with the calls that are made in it: as the last of them, which has failed
-- or is that of the last step, or between two calls, before a step without a display name.
inductive Ends (host : Host) (steps : List Callable) (store : Store) (made : List StepCall)
    (whole : Reached Value) : Prop
  | asCall {call : StepCall} : made.getLast? = some call →
      (made.length = steps.length ∨ ∃ fault, (call.reached host).outcome = .error fault) →
      whole.outcome = (call.reached host).outcome → whole.store = (call.reached host).store →
      Ends host steps store made whole
  | unnamed {step : Callable} : steps[made.length]? = some step → ¬ step.IsNamed →
      (∀ call, made.getLast? = some call → ∃ v, (call.reached host).outcome = .ok v) →
      whole.outcome = .error (.unmet .longNumber) →
      whole.store = (made.getLast?.map fun call => (call.reached host).store).getD store →
      Ends host steps store made whole

-- A run of steps whose log is that of calls, the first of them at an index, and that ends with
-- them.
structure ConsistsOf (host : Host) (steps : List Callable) (store : Store) (index : Nat)
    (whole : Reached Value) (made : List StepCall) : Prop where
  log : whole.events = (made.zipIdx index).flatMap fun (call, index) => call.logged host index
  ends : Ends host steps store made whole

variable {host : Host}

section

variable {step : Callable} (hnamed : step.IsNamed) {args : List Value} {store : Store}

include hnamed

theorem calls_of_ok {v : Value} (h : (step.call host args store).outcome = .ok v)
    (steps : List Callable) :
    calls host (step :: steps) args store =
      ⟨step, args, store⟩ ::
        calls host steps [v.snapshot] (step.call host args store).store := by
  simp only [calls, if_pos hnamed, StepCall.reached, h]

theorem calls_of_error {fault : Fault} (h : (step.call host args store).outcome = .error fault)
    (steps : List Callable) :
    calls host (step :: steps) args store = [⟨step, args, store⟩] := by
  simp only [calls, if_pos hnamed, StepCall.reached, h]

end

theorem calls_of_not_isNamed {step : Callable} (h : ¬ step.IsNamed) (steps : List Callable)
    (args : List Value) (store : Store) : calls host (step :: steps) args store = [] := by
  simp only [calls, if_neg h]

namespace IsTrace

variable {step : Callable} {steps : List Callable} {args : List Value} {store : Store}

theorem nil (args : List Value) (store : Store) : IsTrace host [] args store [] where
  inOrder := rfl
  starts := rfl
  continues h := nomatch h
  ends h := nomatch h

-- A first step without a display name is not called, nor is any other.
theorem unnamed (h : ¬ step.IsNamed) : IsTrace host (step :: steps) args store [] where
  inOrder := rfl
  starts := by simp [Option.filter, h]
  continues h := nomatch h
  ends h := nomatch h

-- A step that fails ends the trace.
theorem failed (hnamed : step.IsNamed) {fault : Fault}
    (h : (step.call host args store).outcome = .error fault) :
    IsTrace host (step :: steps) args store [⟨step, args, store⟩] where
  inOrder := rfl
  starts := by simp [Option.filter, hnamed]
  continues _ hnext := nomatch hnext
  ends {index call} hcall := by
    cases index with
    | zero =>
        cases hcall
        exact ⟨fun _ => .inr (.inl ⟨fault, h⟩), fun _ => rfl⟩
    | succ index => cases hcall

-- A step that returns comes before the trace of the others.
theorem cons (hnamed : step.IsNamed) {v : Value} {made : List StepCall}
    (h : (step.call host args store).outcome = .ok v)
    (hmade : IsTrace host steps [v.snapshot] (step.call host args store).store made) :
    IsTrace host (step :: steps) args store (⟨step, args, store⟩ :: made) where
  inOrder := congrArg (step :: ·) hmade.inOrder
  starts := by simp [Option.filter, hnamed]
  continues {index call next} hcall hnext := by
    cases index with
    | zero =>
        cases hcall
        have hstarts : made[0]? = some next := hnext
        rw [hmade.starts] at hstarts
        obtain ⟨_, _, rfl⟩ := Option.map_eq_some_iff.mp hstarts
        exact ⟨v, h, rfl, rfl⟩
    | succ index => exact hmade.continues hcall hnext
  ends {index call} hcall := by
    cases index with
    | zero =>
        cases hcall
        have hreturns : ¬ ∃ fault,
            (StepCall.reached host ⟨step, args, store⟩).outcome = .error fault := by
          rintro ⟨fault, hfault⟩
          exact nomatch h.symm.trans hfault
        have hnone : made[0]? = none ↔
            steps.length = 0 ∨ ∃ next, steps[0]? = some next ∧ ¬ next.IsNamed := by
          rw [hmade.starts]
          cases steps <;> simp
        rw [or_iff_right hreturns, List.length_cons, Nat.succ_inj]
        exact hnone
    | succ index =>
        rw [List.length_cons, Nat.succ_inj]
        exact hmade.ends hcall

theorem of_calls (steps : List Callable) (args : List Value) (store : Store) :
    IsTrace host steps args store (calls host steps args store) := by
  induction steps generalizing args store with
  | nil => exact .nil args store
  | cons step steps ih =>
      by_cases hnamed : step.IsNamed
      · cases h : (step.call host args store).outcome with
        | error fault => rw [calls_of_error hnamed h]; exact .failed hnamed h
        | ok v => rw [calls_of_ok hnamed h]; exact .cons hnamed h (ih _ _)
      · rw [calls_of_not_isNamed hnamed]
        exact .unnamed hnamed

end IsTrace

-- A call that returns comes before others that a run ends with.
theorem Ends.cons {steps : List Callable} (call : StepCall) {made : List StepCall}
    {further whole : Reached Value} {v : Value} (hcall : (call.reached host).outcome = .ok v)
    (h : Ends host steps (call.reached host).store made further)
    (houtcome : whole.outcome = further.outcome) (hstore : whole.store = further.store) :
    Ends host (call.step :: steps) call.store (call :: made) whole := by
  cases h with
  | asCall hlast hends hfurther hleft =>
      refine .asCall (by rw [List.getLast?_cons, hlast]; rfl) ?_ (houtcome.trans hfurther)
        (hstore.trans hleft)
      simpa using hends
  | unnamed hstep hunnamed hreturned hfurther hleft =>
      refine .unnamed hstep hunnamed ?_ (houtcome.trans hfurther) ?_
      · cases hlast : made.getLast? with
        | none => simpa [List.getLast?_cons, hlast] using ⟨v, hcall⟩
        | some last => simpa [List.getLast?_cons, hlast] using hreturned last hlast
      · rw [hstore, hleft, List.getLast?_cons]
        cases made.getLast? <;> rfl

-- The announcement of a step at an index.
def announce (index : Nat) (step : Callable) (args : List Value) : Run Unit :=
  match index with
  | 0 => announceInput step args.length
  | index + 1 => announceStep (index + 1) step

theorem announce_of_isNamed {step : Callable} (h : step.IsNamed) (index : Nat) (args : List Value)
    (store : Store) :
    announce index step args = Run.emit (StepCall.record ⟨step, args, store⟩ index) := by
  cases index with
  | zero => exact announceInput_of_isNamed h args.length
  | succ index =>
      rw [announce, announceStep, Callable.displayForm_of_isNamed h]
      rfl

theorem announce_of_not_isNamed {step : Callable} (h : ¬ step.IsNamed) (index : Nat)
    (args : List Value) : announce index step args = Run.fail (.unmet .longNumber) := by
  cases index with
  | zero =>
      rw [announce, announceInput, Callable.displayForm_of_not_isNamed h]
      rfl
  | succ index =>
      rw [announce, announceStep, Callable.displayForm_of_not_isNamed h]
      rfl

theorem emit_bind_apply (event : Event) (next : Run Value) (store : Store) :
    (Run.emit event >>= fun _ => next) store =
      ⟨(next store).outcome, event :: (next store).events, (next store).store⟩ := rfl

-- A step is announced and called, and the others go on from what it returns.
theorem consistsOf_call (index : Nat) (step : Callable) (steps : List Callable)
    (args : List Value) (store : Store) :
    ConsistsOf host (step :: steps) store index
      ((announce index step args >>= fun _ =>
        step.call host args >>= runFrom host (index + 1) steps) store)
      (calls host (step :: steps) args store) := by
  induction steps generalizing index step args store with
  | nil =>
      by_cases hnamed : step.IsNamed
      · have hcalls : calls host [step] args store = [⟨step, args, store⟩] := by
          cases h : (step.call host args store).outcome with
          | error fault => exact calls_of_error hnamed h []
          | ok v => exact calls_of_ok hnamed h []
        have hpure : runFrom host (index + 1) [] = pure := funext (runFrom_nil host _)
        rw [hcalls, hpure, Run.bind_pure, announce_of_isNamed hnamed index args store]
        exact ⟨(List.append_nil _).symm, .asCall rfl (.inl rfl) rfl rfl⟩
      · rw [calls_of_not_isNamed hnamed, announce_of_not_isNamed hnamed]
        exact ⟨rfl, .unnamed rfl hnamed nofun rfl rfl⟩
  | cons next steps ih =>
      by_cases hnamed : step.IsNamed
      · rw [announce_of_isNamed hnamed index args store]
        cases h : (step.call host args store).outcome with
        | error fault =>
            rw [calls_of_error hnamed h, emit_bind_apply, Run.bind_of_error h]
            exact ⟨(List.append_nil _).symm, .asCall rfl (.inr ⟨fault, h⟩) h.symm rfl⟩
        | ok v =>
            -- The next step is announced and called likewise, with a view of what this one gave.
            obtain ⟨hlog, hends⟩ :=
              ih (index + 1) next [v.snapshot] (step.call host args store).store
            rw [calls_of_ok hnamed h, emit_bind_apply, Run.bind_of_ok h, runFrom_cons]
            refine ⟨?_, .cons ⟨step, args, store⟩ h hends rfl rfl⟩
            exact congrArg
              (StepCall.record ⟨step, args, store⟩ index ::
                (step.call host args store).events ++ ·) hlog
      · rw [calls_of_not_isNamed hnamed, announce_of_not_isNamed hnamed]
        exact ⟨rfl, .unnamed rfl hnamed nofun rfl rfl⟩

theorem consistsOf_runSteps (first : Callable) (rest : List Callable) (args : List Value)
    (store : Store) :
    ConsistsOf host (first :: rest) store 0 (runSteps host first rest args store)
      (calls host (first :: rest) args store) :=
  consistsOf_call 0 first rest args store

theorem ConsistsOf.notes {steps : List Callable} {store : Store} {index : Nat}
    {whole : Reached Value} {made : List StepCall}
    (h : ConsistsOf host steps store index whole made) :
    whole.notes = made.flatMap fun call => (call.reached host).notes := by
  have hmap := List.flatMap_map Prod.fst (fun call : StepCall => (call.reached host).notes)
    (made.zipIdx index)
  rw [List.zipIdx_map_fst] at hmap
  rw [Reached.notes, h.log, List.filterMap_flatMap, hmap]
  simp only [StepCall.filterMap_note?_logged]

-- A run of callables on a list or a tuple of arguments has the right shape.
theorem run_eq_runSteps (host : Host) {args steps : Value} {items : List Value}
    {first : Callable} {rest : List Callable} (hargs : args.items? = some items)
    (hsteps : steps.items? = some ((first :: rest).map .callable)) :
    run host args steps = runSteps host first rest items := by
  have hvalue : ofValue steps = .ok (first, rest) := by
    rw [ofValue, hsteps]
    exact ofItems_map_cons first rest
  simp only [run, hvalue, runArguments, hargs]
  rfl

-- Where all steps have display names, a run ends as its last call ends.
theorem Ends.asCall_of_named {steps : List Callable} {store : Store} {made : List StepCall}
    {whole : Reached Value} (h : Ends host steps store made whole)
    (hnamed : ∀ step ∈ steps, step.IsNamed) :
    ∃ call, made.getLast? = some call ∧
      (made.length = steps.length ∨ ∃ fault, (call.reached host).outcome = .error fault) ∧
      whole.outcome = (call.reached host).outcome ∧
      whole.store = (call.reached host).store := by
  cases h with
  | asCall hlast hends houtcome hstore => exact ⟨_, hlast, hends, houtcome, hstore⟩
  | unnamed hstep hunnamed => exact absurd (hnamed _ (List.mem_of_getElem? hstep)) hunnamed

theorem consistsOf_run (host : Host) {args steps : Value} {items : List Value}
    {callables : List Callable} (hargs : args.items? = some items)
    (hsteps : steps.items? = some (callables.map .callable)) (hne : callables ≠ [])
    (store : Store) :
    ConsistsOf host callables store 0 (run host args steps store)
      (calls host callables items store) := by
  cases callables with
  | nil => exact absurd rfl hne
  | cons first rest =>
      rw [run_eq_runSteps host hargs hsteps]
      exact consistsOf_runSteps first rest items store

-- Such a run consists of the calls of its steps, and has their notes. It ends as the last of them,
-- unless it is broken off before a step without a display name.
theorem run_traces (host : Host) {args steps : Value} {items : List Value}
    {callables : List Callable} (hargs : args.items? = some items)
    (hsteps : steps.items? = some (callables.map .callable)) (hne : callables ≠ [])
    (store : Store) :
    let made := calls host callables items store
    let reached := run host args steps store
    IsTrace host callables items store made ∧ ConsistsOf host callables store 0 reached made ∧
      reached.notes = (made.flatMap fun call => (call.reached host).notes) ∧
      ((∀ step ∈ callables, step.IsNamed) → ∃ call, made.getLast? = some call ∧
        (made.length = callables.length ∨ ∃ fault, (call.reached host).outcome = .error fault) ∧
        reached.outcome = (call.reached host).outcome ∧
        reached.store = (call.reached host).store) := by
  intro made reached
  have hconsists : ConsistsOf host callables store 0 reached made :=
    consistsOf_run host hargs hsteps hne store
  exact ⟨.of_calls callables items store, hconsists, hconsists.notes,
    hconsists.ends.asCall_of_named⟩

-- A step that leaves a note and fails.
def breakOff : Callable :=
  .function 101 ⟨"break_off", [BuiltIn.param "env"], .note "breaking" (.raise .value "off"), none⟩

-- A pipeline that starts with a composition and fails before its last step.
theorem run_traces_broken_off :
    let steps := [.composed 100 "load_value+add_one" BuiltIn.loadValue [BuiltIn.addOne],
      BuiltIn.nop, breakOff, BuiltIn.product]
    let reached := run World.bare.host (.list [.int 25]) (stepList steps) .start
    (calls World.bare.host steps [.int 25] .start).length = 3 ∧
    (∀ step ∈ steps, step.IsNamed) ∧
    reached.outcome = .error (.raised .value "off") ∧
    reached.notes = ["breaking"] ∧
    reached.events =
      [.log .engine "pipeline input load_value+add_one with 1 argument(s)",
        .log .engine "pipeline input load_value with 1 argument(s)",
        .log .engine "pipeline step 1: add_one",
        .log .engine "pipeline step 1: nop_step",
        .log .engine "pipeline step 2: break_off",
        .note "breaking"] := by
  intro steps reached
  have hargs : (Value.list [.int 25]).items? = some [.int 25] := rfl
  have hnamed : ∀ step ∈ steps, step.IsNamed := by
    simp only [steps, List.forall_mem_cons]
    exact ⟨⟨_, rfl⟩, ⟨_, rfl⟩, ⟨_, rfl⟩, ⟨_, rfl⟩, List.forall_mem_nil _⟩
  obtain ⟨-, ⟨hlog, -⟩, hnotes, hends⟩ :=
    run_traces World.bare.host hargs (rfl : (stepList steps).items? = _) (List.cons_ne_nil _ _)
      .start
  obtain ⟨last, hlast, -, houtcome, -⟩ := hends hnamed
  cases hlast
  exact ⟨rfl, hnamed, houtcome, hnotes, hlog⟩

-- A run that fails although no call that is made in it does.
theorem run_broken_off_unnamed :
    let host := World.bare.host
    let made := calls host [noting, unnamed] [] .start
    let reached := run host (.list []) (stepList [noting, unnamed]) .start
    made = [⟨noting, [], .start⟩] ∧ (∀ call ∈ made, (call.reached host).outcome = .ok (.dict [])) ∧
      reached.outcome = .error (.unmet .longNumber) ∧
      reached.events =
        [.log .engine "pipeline input load with 0 argument(s)", .note "loading"] := by
  intro host made reached
  have hmade : made = [⟨noting, [], .start⟩] := by
    have hcall : (noting.call host [] .start).outcome = .ok (.dict []) := rfl
    simp only [made]
    rw [calls_of_ok ⟨_, rfl⟩ hcall, calls_of_not_isNamed not_isNamed_unnamed]
  have hconsists : ConsistsOf host [noting, unnamed] .start 0 reached made :=
    consistsOf_run host (rfl : (Value.list []).items? = some []) rfl (List.cons_ne_nil _ _) .start
  rw [hmade] at hconsists
  refine ⟨hmade, ?_, ?_, hconsists.log⟩
  · rw [hmade]
    exact List.forall_mem_singleton.mpr rfl
  · clear_value reached
    cases hconsists.ends with
    | asCall hlast hends =>
        cases hlast
        rcases hends with hlength | ⟨fault, hfault⟩
        · cases hlength
        · cases hfault
    | unnamed _ _ _ houtcome => exact houtcome

end Pipeline

end StepFlow
