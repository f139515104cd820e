import StepFlow.Proofs.Composition
import StepFlow.Proofs.DeclarationGrammar
import StepFlow.Proofs.Items
import StepFlow.Proofs.Trace

namespace StepFlow.Pipeline

variable {host : Host} {args steps : Value} {items : List Value} {callables : List Callable}
  {store : Store}

-- What a run needs: a list or a tuple of one or more callables, and a list or a tuple of items.
structure WellShaped (args steps : Value) (callables : List Callable) (items : List Value) :
    Prop where
  nonempty : callables ≠ []
  steps : steps.items? = some (callables.map .callable)
  args : args.items? = some items

-- A run that consists of the calls of steps in a row, the first with some items.
def IsRunOf (host : Host) (callables : List Callable) (items : List Value) (store : Store)
    (reached : Reached Value) : Prop :=
  ∃ made, IsTrace host callables items store made ∧ ConsistsOf host callables store 0 reached made

-- Such a run in which a call is made, and so that of the first step.
def CallsFirst (host : Host) (callables : List Callable) (items : List Value) (store : Store)
    (reached : Reached Value) : Prop :=
  ∃ call made, IsTrace host callables items store (call :: made) ∧
    ConsistsOf host callables store 0 reached (call :: made)

def NotCallable (v : Value) : Prop :=
  v.callable? = none

-- What is said about an item that is not callable: where it stands and how it is shown, which is
-- another fault if it cannot be shown.
def complaint (index : Nat) (v : Value) : Fault :=
  if v.hasLongNumber then .unmet .longNumber else .shape (.stepNotCallable index v.shown)

-- What is said about arguments that are no list: it names the first step, which is another fault
-- if the step has no display name.
def refusal (first : Callable) (args : Value) : Fault :=
  if first.IsNamed then .shape (.argumentsNotList first.displayName args.typeName)
  else .unmet .longNumber

-- Why items cannot be steps: there is none, or one of them is not callable.
inductive Unfit (items : List Value) : Fault → Prop
  | noSteps : items = [] → Unfit items (.shape .noSteps)
  | notCallable {index : Nat} {v : Value} : IsFirst NotCallable items index v →
      Unfit items (complaint index v)

-- Why items cannot be bundled: they cannot be steps, or one of them has no display name.
inductive Unbundled (items : List Value) : Fault → Prop
  | unfit {fault : Fault} : Unfit items fault → Unbundled items fault
  | unnamed {callables : List Callable} : items = callables.map .callable →
      (∃ step ∈ callables, ¬ step.IsNamed) → Unbundled items (.unmet .longNumber)

-- Why the first step is not called. The arguments only matter if nothing is wrong with the steps,
-- and the name of the first step only if nothing is with either.
inductive Refused (args steps : Value) : Fault → Prop
  | stepsNotList : steps.items? = none → Refused args steps (.shape (.stepsNotList steps.typeName))
  | stepsUnfit {items : List Value} {fault : Fault} : steps.items? = some items →
      Unfit items fault → Refused args steps fault
  | argumentsNotList {first : Callable} {rest : List Callable} :
      steps.items? = some ((first :: rest).map .callable) → args.items? = none →
      Refused args steps (refusal first args)
  | unnamed {first : Callable} {rest : List Callable} {items : List Value} :
      WellShaped args steps (first :: rest) items → ¬ first.IsNamed →
      Refused args steps (.unmet .longNumber)

-- The first step that is not callable cannot be shown, or all are callable and the first of them
-- has no display name.
def Unshowable (steps : Value) : Prop :=
  (∃ items index v, steps.items? = some items ∧ IsFirst NotCallable items index v ∧
    v.hasLongNumber = true) ∨
  ∃ first rest, steps.items? = some ((first :: rest).map .callable) ∧ ¬ first.IsNamed

theorem exists_callables (h : ∀ v ∈ items, ¬ NotCallable v) :
    ∃ callables : List Callable, items = callables.map .callable := by
  induction items with
  | nil => exact ⟨[], rfl⟩
  | cons v items ih =>
      obtain ⟨hv, hrest⟩ := List.forall_mem_cons.mp h
      obtain ⟨c, hc⟩ := Option.ne_none_iff_exists'.mp hv
      obtain rfl := (Value.callable?_eq_some_iff v c).mp hc
      obtain ⟨callables, rfl⟩ := ih hrest
      exact ⟨c :: callables, rfl⟩

-- What is not callable is complained about with its index, which starts at some number.
theorem callables_of_isFirst {place : Nat} {v : Value} (h : IsFirst NotCallable items place v)
    (index : Nat) : Pipeline.callables index items = .error (complaint (index + place) v) := by
  induction h generalizing index with
  | @here v items hother =>
      simp only [Pipeline.callables, show v.callable? = none from hother,
        Declaration.met_quotedForm, complaint, Nat.add_zero]
      cases v.hasLongNumber <;> rfl
  | @later v w items place hcallable _ ih =>
      obtain ⟨c, hc⟩ := Option.ne_none_iff_exists'.mp hcallable
      rw [Pipeline.callables, hc, Nat.add_comm place, ← Nat.add_assoc]
      simp only [ih]
      rfl

-- Items are steps, or there is a reason why they cannot be.
theorem ofItems_cases (items : List Value) :
    (∃ first rest, items = (first :: rest).map .callable ∧ ofItems items = .ok (first, rest)) ∨
      ∃ fault, Unfit items fault ∧ ofItems items = .error fault := by
  rcases forall_not_or_isFirst NotCallable items with hall | ⟨index, v, hfirst⟩
  · obtain ⟨callables, rfl⟩ := exists_callables hall
    cases callables with
    | nil => exact .inr ⟨_, .noSteps rfl, rfl⟩
    | cons first rest => exact .inl ⟨first, rest, rfl, ofItems_map_cons first rest⟩
  · refine .inr ⟨_, .notCallable hfirst, ?_⟩
    rw [ofItems, callables_of_isFirst hfirst, Nat.zero_add]

-- Steps of the right shape are not run with arguments that are not.
theorem run_of_items?_eq_none {first : Callable} {rest : List Callable}
    (hsteps : steps.items? = some ((first :: rest).map .callable)) (hargs : args.items? = none) :
    run host args steps = Run.fail (refusal first args) := by
  have harguments : runArguments first args = .error (refusal first args) := by
    rw [runArguments, hargs]
    by_cases hnamed : first.IsNamed
    · rw [refusal, if_pos hnamed, Callable.displayForm_of_isNamed hnamed]
      rfl
    · rw [refusal, if_neg hnamed, Callable.displayForm_of_not_isNamed hnamed]
      rfl
  have hrun : run host args steps = (do
      let items ← runArguments first args
      runSteps host first rest items) := by
    simp only [run, ofValue, hsteps, ofItems_map_cons]
    rfl
  rw [hrun, harguments]
  rfl

-- The first step is called in a run that has what it needs, or there is a reason why it is not.
theorem run_cases (host : Host) (args steps : Value) :
    (∃ first rest items, WellShaped args steps (first :: rest) items ∧ first.IsNamed ∧
      run host args steps = runSteps host first rest items) ∨
      ∃ fault, Refused args steps fault ∧ run host args steps = Run.fail fault := by
  cases hsteps : steps.items? with
  | none =>
      refine .inr ⟨_, .stepsNotList hsteps, ?_⟩
      rw [run, ofValue, hsteps]
      rfl
  | some values =>
      rcases ofItems_cases values with ⟨first, rest, rfl, hitems⟩ | ⟨fault, hunfit, hitems⟩
      · cases hargs : args.items? with
        | some items =>
            have hshaped : WellShaped args steps (first :: rest) items :=
              ⟨List.cons_ne_nil _ _, hsteps, hargs⟩
            have hrun := run_eq_runSteps host hargs hsteps
            by_cases hnamed : first.IsNamed
            · exact .inl ⟨first, rest, items, hshaped, hnamed, hrun⟩
            · refine .inr ⟨_, .unnamed hshaped hnamed, ?_⟩
              rw [hrun, runSteps_of_not_isNamed hnamed]
        | none =>
            exact .inr ⟨_, .argumentsNotList hsteps hargs, run_of_items?_eq_none hsteps hargs⟩
      · refine .inr ⟨fault, .stepsUnfit hsteps hunfit, ?_⟩
        rw [run, ofValue, hsteps]
        simp only [hitems]
        rfl

theorem isRunOf_runSteps (first : Callable) (rest : List Callable) (items : List Value)
    (store : Store) :
    IsRunOf host (first :: rest) items store (runSteps host first rest items store) :=
  ⟨_, .of_calls (first :: rest) items store, consistsOf_runSteps first rest items store⟩

theorem callsFirst_runSteps {first : Callable} (hnamed : first.IsNamed) (rest : List Callable)
    (items : List Value) (store : Store) :
    CallsFirst host (first :: rest) items store (runSteps host first rest items store) := by
  have htrace : IsTrace host _ _ _ _ := .of_calls (first :: rest) items store
  have hconsists : ConsistsOf host _ _ _ _ _ := consistsOf_runSteps first rest items store
  rw [calls, if_pos hnamed] at htrace hconsists
  exact ⟨_, _, htrace, hconsists⟩

-- Where a call is made there is its record at least.
theorem CallsFirst.events_ne_nil {reached : Reached Value}
    (h : CallsFirst host callables items store reached) : reached.events ≠ [] := by
  obtain ⟨call, made, -, hconsists⟩ := h
  rw [hconsists.log]
  exact List.cons_ne_nil _ _

theorem Refused.category {fault : Fault} (h : Refused args steps fault) :
    fault.category = .argumentShape ∨ fault = .unmet .longNumber ∧ Unshowable steps := by
  cases h with
  | stepsNotList _ => exact .inl rfl
  | @argumentsNotList first rest hsteps _ =>
      by_cases hnamed : first.IsNamed
      · rw [refusal, if_pos hnamed]
        exact .inl rfl
      · rw [refusal, if_neg hnamed]
        exact .inr ⟨rfl, .inr ⟨first, rest, hsteps, hnamed⟩⟩
  | @unnamed first rest _ hshaped hnamed =>
      exact .inr ⟨rfl, .inr ⟨first, rest, hshaped.steps, hnamed⟩⟩
  | stepsUnfit hsteps hunfit =>
      cases hunfit with
      | noSteps _ => exact .inl rfl
      | @notCallable index v hfirst =>
          cases hlong : v.hasLongNumber with
          | true =>
              refine .inr ⟨?_, .inl ⟨_, index, v, hsteps, hfirst, hlong⟩⟩
              rw [complaint, hlong]
              rfl
          | false =>
              refine .inl ?_
              rw [complaint, hlong]
              rfl

-- Items can be bundled if they are steps with display names. If they cannot be, nothing has
-- happened.
theorem compose_cases (values : List Value) (store : Store) :
    (∃ first rest name, values = (first :: rest).map .callable ∧
      (∀ step ∈ first :: rest, step.IsNamed) ∧
      (compose values store).outcome = .ok (.composed store.next name first rest)) ∨
      ∃ fault, Unbundled values fault ∧ compose values store = ⟨.error fault, [], store⟩ := by
  rcases ofItems_cases values with ⟨first, rest, rfl, -⟩ | ⟨fault, hunfit, hvalues⟩
  · obtain hnamed | hunnamed := forall_isNamed_or_exists_not (first :: rest)
    · exact .inl ⟨first, rest, _, rfl, hnamed, compose_of_named hnamed store⟩
    · exact .inr ⟨_, .unnamed rfl hunnamed, compose_of_not_named hunnamed store⟩
  · refine .inr ⟨fault, .unfit hunfit, ?_⟩
    rw [compose, hvalues]
    rfl

theorem exists_compose_iff (values : List Value) (store : Store) :
    (∃ c, (compose values store).outcome = .ok c) ↔
      ∃ callables : List Callable, callables ≠ [] ∧ values = callables.map .callable ∧
        ∀ step ∈ callables, step.IsNamed := by
  constructor
  · rintro ⟨c, hc⟩
    rcases compose_cases values store with
      ⟨first, rest, -, hvalues, hnamed, -⟩ | ⟨fault, -, hfault⟩
    · exact ⟨first :: rest, List.cons_ne_nil _ _, hvalues, hnamed⟩
    · rw [hfault] at hc
      cases hc
  · rintro ⟨callables, hne, rfl, hnamed⟩
    cases callables with
    | nil => exact absurd rfl hne
    | cons first rest => exact ⟨_, compose_of_named hnamed store⟩

theorem unbundled_of_compose {values : List Value} {fault : Fault}
    (h : (compose values store).outcome = .error fault) :
    Unbundled values fault ∧ compose values store = ⟨.error fault, [], store⟩ := by
  rcases compose_cases values store with ⟨first, rest, _, -, -, hok⟩ | ⟨other, hunbundled, hother⟩
  · exact nomatch hok.symm.trans h
  · rw [hother] at h
    cases h
    exact ⟨hunbundled, hother⟩

-- A composition consists of calls of the steps it was made of, whatever it is called with.
theorem callsFirst_of_compose {values : List Value} {c : Callable}
    (h : (compose values store).outcome = .ok c) :
    ∃ callables : List Callable, values = callables.map .callable ∧
      ∀ given later, CallsFirst host callables given later (c.call host given later) := by
  obtain ⟨callables, -, rfl, hnamed⟩ := (exists_compose_iff values store).mp ⟨c, h⟩
  obtain ⟨name, first, rest, rfl, rfl⟩ := eq_composed_of_compose h
  refine ⟨first :: rest, rfl, fun given later => ?_⟩
  rw [call_composed]
  exact callsFirst_runSteps (hnamed first (List.mem_cons_self ..)) rest given later

-- The first step is called, in a run that consists of calls of its steps, exactly if the steps and
-- the arguments have the right shape and the first step has a display name. Any other run is
-- refused with nothing done, for what is wrong with its steps, and only if nothing is for its
-- arguments, which then is an error of the first step as an input step. All refusals are errors of
-- shape, unless the first step that is not callable cannot be shown or the first step has no
-- display name. Items can be bundled exactly if they are steps of the right shape with display
-- names; a composition calls its first step whatever it is called with.
theorem run_calls_iff_wellShaped (host : Host) (args steps : Value) (store : Store) :
    let reached := run host args steps store
    (∀ callables items, WellShaped args steps callables items →
      IsRunOf host callables items store reached) ∧
    ((∃ callables items, CallsFirst host callables items store reached) ↔
      ∃ first rest items, WellShaped args steps (first :: rest) items ∧ first.IsNamed) ∧
    ((¬ ∃ first rest items, WellShaped args steps (first :: rest) items ∧ first.IsNamed) →
      ∃ fault, Refused args steps fault ∧ reached = ⟨.error fault, [], store⟩) ∧
    (∀ fault, Refused args steps fault →
      fault.category = .argumentShape ∨ fault = .unmet .longNumber ∧ Unshowable steps) ∧
    (∀ first rest, steps.items? = some ((first :: rest).map .callable) → args.items? = none →
      first.IsNamed → ∃ fault, reached.outcome = .error fault ∧ fault.category = .argumentShape ∧
        fault.stepName = .str first.displayName ∧ fault.stepKind? = some .input) ∧
    ∀ values : List Value,
      let bundled := compose values store
      ((∃ c, bundled.outcome = .ok c) ↔
        ∃ callables : List Callable, callables ≠ [] ∧ values = callables.map .callable ∧
          ∀ step ∈ callables, step.IsNamed) ∧
      (∀ fault, bundled.outcome = .error fault →
        Unbundled values fault ∧ bundled = ⟨.error fault, [], store⟩) ∧
      ∀ c, bundled.outcome = .ok c → ∃ callables : List Callable, values = callables.map .callable ∧
        ∀ given later, CallsFirst host callables given later (c.call host given later) := by
  intro reached
  have hrefused : (¬ ∃ first rest items, WellShaped args steps (first :: rest) items ∧
      first.IsNamed) → ∃ fault, Refused args steps fault ∧ reached = ⟨.error fault, [], store⟩ := by
    intro hnot
    rcases run_cases host args steps with
      ⟨first, rest, items, hshaped, hnamed, -⟩ | ⟨fault, hfault, hrun⟩
    · exact absurd ⟨first, rest, items, hshaped, hnamed⟩ hnot
    · exact ⟨fault, hfault, congrFun hrun store⟩
  refine ⟨?_, ⟨?_, ?_⟩, hrefused, fun _ => Refused.category, ?_, fun values => ?_⟩
  · rintro callables items ⟨hne, hsteps, hargs⟩
    exact ⟨_, .of_calls callables items store, consistsOf_run host hargs hsteps hne store⟩
  · rintro ⟨callables, items, hcalls⟩
    by_contra hnot
    obtain ⟨fault, -, hreached⟩ := hrefused hnot
    exact hcalls.events_ne_nil (congrArg Reached.events hreached)
  · rintro ⟨first, rest, items, ⟨-, hsteps, hargs⟩, hnamed⟩
    have hrun : reached = runSteps host first rest items store :=
      congrFun (run_eq_runSteps host hargs hsteps) store
    rw [hrun]
    exact ⟨_, _, callsFirst_runSteps hnamed rest items store⟩
  · intro first rest hsteps hargs hnamed
    refine ⟨.shape (.argumentsNotList first.displayName args.typeName), ?_, rfl, rfl, rfl⟩
    simp only [reached, run_of_items?_eq_none hsteps hargs, Run.fail_apply, refusal, if_pos hnamed]
  · exact ⟨exists_compose_iff values store, fun _ => unbundled_of_compose,
      fun _ => callsFirst_of_compose⟩

-- A number in the place of a step that is too long to be shown is refused with another error, and
-- so is a step that has such a number for a name, in a run as in a composition.
theorem run_unshowable :
    let refused : Reached Value := ⟨.error (.unmet .longNumber), [], .start⟩
    run World.bare.host (.list []) (.list [.int longNumber]) .start = refused ∧
    run World.bare.host (.list []) (stepList [unnamed]) .start = refused ∧
    (compose [.callable unnamed] .start).outcome = .error (.unmet .longNumber) ∧
    (Fault.unmet .longNumber).category = .value := by
  intro refused
  have hfirst : IsFirst NotCallable [.int longNumber] 0 (.int longNumber) := .here rfl
  have hsteps : ofValue (.list [.int longNumber]) = .error (.unmet .longNumber) := by
    have hcallables := callables_of_isFirst hfirst 0
    rw [complaint, Value.hasLongNumber_longNumber, if_pos rfl] at hcallables
    simp only [ofValue, Value.items?, ofItems, hcallables]
  refine ⟨?_, ?_, congrArg Reached.outcome (compose_unnamed .start), rfl⟩
  · rw [run, hsteps]
    rfl
  · have hargs : (Value.list []).items? = some [] := rfl
    rw [run_stepList World.bare.host hargs, runSteps_of_not_isNamed not_isNamed_unnamed]
    rfl

end StepFlow.Pipeline
