import StepFlow.Proofs.Composition
import StepFlow.Proofs.Contract

namespace StepFlow

-- A call of a body: what it is called with and what this comes to.
structure BodyCall where
  args : List Value
  reached : Reached Value

namespace DeclaredStep

variable {host : Host} {step : DeclaredStep}

-- What a step calls its body with when it is called itself, if it gets so far.
def bodyArgs? (step : DeclaredStep) (args : List Value) : Option (List Value) :=
  match step.kind with
  | .input => if step.declaration.takes args.length then some args else none
  | .intermediate | .output =>
    match args with
    | [v] => v.entries?.map step.operands
    | _ => none

-- What a step makes of what its body returns.
def judge (step : DeclaredStep) (args : List Value) (returned : Value) : Except Fault Value :=
  match step.kind with
  | .input =>
    if returned.entries?.isSome then .ok returned else .error (step.returnsNoEnvironment returned)
  | .intermediate =>
    match returned.entries? with
    | some added => .ok (.dict (((args.head?.bind Value.entries?).getD []).merge added))
    | none => .error (step.returnsNoEnvironment returned)
  | .output => .ok returned

theorem bodyArgs?_input (hkind : step.kind = .input) (args : List Value) :
    step.bodyArgs? args = if step.declaration.takes args.length then some args else none := by
  simp only [bodyArgs?, hkind]

theorem bodyArgs?_input_eq_some_iff (hkind : step.kind = .input) {args operands : List Value} :
    step.bodyArgs? args = some operands ↔
      step.declaration.takes args.length = true ∧ args = operands := by
  rw [bodyArgs?_input hkind, Option.ite_none_right_eq_some, Option.some_inj]

theorem bodyArgs?_singleton (hkind : step.kind ≠ .input) (v : Value) :
    step.bodyArgs? [v] = v.entries?.map step.operands := by
  cases h : step.kind with
  | input => exact absurd h hkind
  | intermediate => simp only [bodyArgs?, h]
  | output => simp only [bodyArgs?, h]

theorem bodyArgs?_of_length_ne_one (hkind : step.kind ≠ .input) {args : List Value}
    (hargs : args.length ≠ 1) : step.bodyArgs? args = none := by
  match args with
  | [] => cases h : step.kind <;> simp_all [bodyArgs?]
  | [_] => exact absurd rfl hargs
  | _ :: _ :: _ => cases h : step.kind <;> simp_all [bodyArgs?]

-- A step that does not get to its body fails without any effect.
theorem call_of_bodyArgs?_eq_none (host : Host) {args : List Value}
    (h : step.bodyArgs? args = none) :
    ∃ fault, step.callable.call host args = Run.fail fault := by
  by_cases hkind : step.kind = .input
  · rw [bodyArgs?_input hkind, ite_eq_right_iff] at h
    rw [call_input hkind, if_neg fun htakes => nomatch h htakes]
    exact ⟨_, rfl⟩
  by_cases hargs : args.length = 1
  · obtain ⟨v, rfl⟩ := List.length_eq_one_iff.mp hargs
    rw [bodyArgs?_singleton hkind, Option.map_eq_none_iff] at h
    exact ⟨_, call_of_entries?_eq_none hkind h⟩
  · exact call_of_length_ne_one hkind hargs

-- A step that gets to its body calls it once and judges what it returns.
theorem call_of_bodyArgs?_eq_some {args operands : List Value}
    (h : step.bodyArgs? args = some operands) :
    step.callable.call host args =
      step.body.call host operands >>= fun returned => Run.lift (step.judge args returned) := by
  by_cases hinput : step.kind = .input
  · obtain ⟨htakes, rfl⟩ := (bodyArgs?_input_eq_some_iff hinput).mp h
    rw [call_input hinput, if_pos htakes]
    congr 1
    funext returned
    simp only [judge, hinput]
    split <;> rfl
  by_cases hargs : args.length = 1
  · obtain ⟨v, rfl⟩ := List.length_eq_one_iff.mp hargs
    rw [bodyArgs?_singleton hinput] at h
    obtain ⟨env, hv, hoperands⟩ := Option.map_eq_some_iff.mp h
    cases hoperands
    cases hkind : step.kind with
    | input => exact absurd hkind hinput
    | intermediate =>
        rw [call_intermediate hkind hv]
        congr 1
        funext returned
        simp only [judge, hkind, List.head?_cons, Option.bind_some, hv, Option.getD_some]
        cases returned.entries? <;> rfl
    | output =>
        rw [call_output hkind hv]
        simp only [judge, hkind]
        exact (Run.bind_pure _).symm
  · rw [bodyArgs?_of_length_ne_one hinput hargs] at h
    cases h

-- The effects of calling a step are those of calling its body.
theorem effects_call (host : Host) {args operands : List Value}
    (h : step.bodyArgs? args = some operands) (store : Store) :
    (step.callable.call host args store).events = (step.body.call host operands store).events ∧
      (step.callable.call host args store).store = (step.body.call host operands store).store := by
  rw [call_of_bodyArgs?_eq_some h]
  cases hbody : (step.body.call host operands store).outcome with
  | error fault => rw [Run.bind_of_error hbody]; exact ⟨rfl, rfl⟩
  | ok returned => rw [Run.bind_of_ok hbody]; exact ⟨List.append_nil _, rfl⟩

end DeclaredStep

-- The steps as callables.
def callables (steps : List DeclaredStep) : List Callable :=
  steps.map DeclaredStep.callable

theorem callables_cons (step : DeclaredStep) (steps : List DeclaredStep) :
    callables (step :: steps) = step.callable :: callables steps := rfl

theorem callables_ne_nil {steps : List DeclaredStep} (h : steps ≠ []) : callables steps ≠ [] := by
  simpa [callables] using h

-- The calls of bodies that steps in a row make when the first is called with arguments.
def bodyCalls (host : Host) : List DeclaredStep → List Value → Store → List BodyCall
  | [], _, _ => []
  | step :: steps, args, store =>
    match step.bodyArgs? args with
    | none => []
    | some operands =>
      ⟨operands, step.body.call host operands store⟩ ::
        match (step.callable.call host args store).outcome with
        | .ok next =>
          bodyCalls host steps [next.snapshot] (step.callable.call host args store).store
        | .error _ => []

section

variable {host : Host} {step : DeclaredStep} {steps : List DeclaredStep} {args : List Value}
  {store : Store}

theorem bodyCalls_of_none (h : step.bodyArgs? args = none) :
    bodyCalls host (step :: steps) args store = [] := by
  simp only [bodyCalls, h]

theorem bodyCalls_of_some {operands : List Value} (h : step.bodyArgs? args = some operands) :
    bodyCalls host (step :: steps) args store =
      ⟨operands, step.body.call host operands store⟩ ::
        match (step.callable.call host args store).outcome with
        | .ok next =>
          bodyCalls host steps [next.snapshot] (step.body.call host operands store).store
        | .error _ => [] := by
  simp only [bodyCalls, h, (DeclaredStep.effects_call host h store).2]

end

-- The events of steps in a row, but for their log records, are those of the calls of their bodies,
-- one after the other.
theorem events_chain (host : Host) (steps : List DeclaredStep) (args : List Value)
    (store : Store) :
    (Pipeline.chain host (callables steps) args store).events =
      (bodyCalls host steps args store).flatMap fun call => call.reached.quiet.events := by
  induction steps generalizing args store with
  | nil => rfl
  | cons step steps ih =>
      rw [callables_cons, Pipeline.chain, step.called_callable]
      cases hargs : step.bodyArgs? args with
      | none =>
          obtain ⟨fault, hcall⟩ := DeclaredStep.call_of_bodyArgs?_eq_none host hargs
          rw [hcall, Run.quiet_fail, Run.fail_bind, bodyCalls_of_none hargs]
          rfl
      | some operands =>
          obtain ⟨hevents, hstore⟩ := DeclaredStep.effects_call host hargs store
          have hfirst : ((step.callable.call host args).quiet store).events =
              (step.body.call host operands store).quiet.events := by
            simp only [Run.quiet, Reached.quiet, hevents]
          rw [bodyCalls_of_some hargs, List.flatMap_cons, ← hfirst]
          cases hcall : (step.callable.call host args store).outcome with
          | error fault =>
              rw [Run.bind_of_error ((Run.outcome_quiet ..).trans hcall)]
              exact (List.append_nil _).symm
          | ok next =>
              rw [Run.bind_of_ok ((Run.outcome_quiet ..).trans hcall), Run.store_quiet, hstore]
              refine congrArg (((step.callable.call host args).quiet store).events ++ ·) ?_
              by_cases hne : steps = []
              · subst hne
                rfl
              · rw [Pipeline.foldlM_advance_eq_chain (callables_ne_nil hne)]
                exact ih [next.snapshot] (step.body.call host operands store).store

-- The notes of a run of declared steps are those of the calls of their bodies.
theorem notes_run (host : Host) {args : Value} {items : List Value}
    (hargs : args.items? = some items) (steps : List DeclaredStep) (store : Store) :
    (Pipeline.run host args (Pipeline.stepList (callables steps)) store).notes =
      (bodyCalls host steps items store).flatMap fun call => call.reached.notes := by
  have hquiet := congrFun (Pipeline.quiet_run_stepList host hargs (callables steps)) store
  have hevents := events_chain host steps items store
  rw [← Reached.notes_quiet]
  change ((Pipeline.run host args _).quiet store).notes = _
  rw [hquiet, Reached.notes, hevents, List.filterMap_flatMap]
  congr 1
  funext call
  exact Reached.notes_quiet call.reached

end StepFlow
