import StepFlow.Native.Host
import StepFlow.Proofs.Quiet

namespace StepFlow.Pipeline

variable {host : Host}

-- What steps in a row do with the arguments of the first, without log records.
def chain (host : Host) : List Callable → List Value → Run Value
  | [], _ => Run.fail (.shape .noSteps)
  | first :: rest, args => called host first args >>= rest.foldlM (advance host)

theorem quiet_run_stepList (host : Host) {args : Value} {items : List Value}
    (hargs : args.items? = some items) (steps : List Callable) :
    (run host args (stepList steps)).quiet = chain host steps items := by
  cases steps with
  | nil => rfl
  | cons first rest => rw [run_stepList host hargs, quiet_runSteps, chain]

theorem chain_append {steps : List Callable} (hne : steps ≠ []) (more : List Callable)
    (args : List Value) :
    chain host (steps ++ more) args = chain host steps args >>= more.foldlM (advance host) := by
  cases steps with
  | nil => exact absurd rfl hne
  | cons first rest =>
      simp only [List.cons_append, chain, Run.bind_assoc]
      congr 1
      funext env
      exact List.foldlM_append

-- Steps that follow a value are called as if they were handed its view as the only argument.
theorem foldlM_advance_eq_chain {steps : List Callable} (hne : steps ≠ []) (env : Value) :
    steps.foldlM (advance host) env = chain host steps [env.snapshot] := by
  cases steps with
  | nil => exact absurd rfl hne
  | cons first rest => rw [List.foldlM_cons, chain, advance]

-- A composition does what its steps do in a row.
theorem chain_composed (serial : Nat) (name : String) (first : Callable) (rest : List Callable)
    (args : List Value) :
    chain host [.composed serial name first rest] args = chain host (first :: rest) args := by
  rw [chain, chain, called_of_isNamed (Callable.isNamed_composed ..), call_composed,
    quiet_runSteps, Run.bind_assoc]
  congr 1
  funext env
  exact Run.bind_pure _

-- All steps have display names, or one of them has none.
theorem forall_isNamed_or_exists_not (steps : List Callable) :
    (∀ step ∈ steps, step.IsNamed) ∨ ∃ step ∈ steps, ¬ step.IsNamed := by
  by_cases h : ∃ step ∈ steps, ¬ step.IsNamed
  · exact .inr h
  · exact .inl (by simpa only [not_exists, not_and, Decidable.not_not] using h)

theorem joinedName_of_named {steps : List Callable} (h : ∀ step ∈ steps, step.IsNamed) :
    joinedName steps = .ok (String.intercalate "+" (steps.map Callable.displayName)) := by
  have hnames : steps.mapM Callable.displayForm = .ok (steps.map Callable.displayName) := by
    induction steps with
    | nil => rfl
    | cons step steps ih =>
        obtain ⟨hstep, hsteps⟩ := List.forall_mem_cons.mp h
        rw [List.mapM_cons, Callable.displayForm_of_isNamed hstep, ih hsteps]
        rfl
  rw [joinedName, hnames]
  rfl

theorem joinedName_of_not_named {steps : List Callable} (h : ∃ step ∈ steps, ¬ step.IsNamed) :
    joinedName steps = .error .longNumber := by
  have hnames : steps.mapM Callable.displayForm = .error .longNumber := by
    induction steps with
    | nil => simp at h
    | cons step steps ih =>
        by_cases hstep : step.IsNamed
        · have hsteps : ∃ step ∈ steps, ¬ step.IsNamed := by simpa [hstep] using h
          rw [List.mapM_cons, Callable.displayForm_of_isNamed hstep, ih hsteps]
          rfl
        · rw [List.mapM_cons, Callable.displayForm_of_not_isNamed hstep]
          rfl
  rw [joinedName, hnames]
  rfl

-- What bundling does once its steps are known to be callable.
theorem compose_map_cons (first : Callable) (rest : List Callable) :
    compose ((first :: rest).map .callable) = (do
      let name ← Fault.met (joinedName (first :: rest))
      Run.identified fun serial => .composed serial name first rest) := by
  simp only [compose, ofItems_map_cons]
  rfl

theorem compose_of_named {first : Callable} {rest : List Callable}
    (h : ∀ step ∈ first :: rest, step.IsNamed) (store : Store) :
    (compose ((first :: rest).map .callable) store).outcome =
      .ok (.composed store.next
        (String.intercalate "+" ((first :: rest).map Callable.displayName)) first rest) := by
  rw [compose_map_cons, joinedName_of_named h]
  rfl

-- Steps of which one has no display name cannot be bundled, and nothing is done.
theorem compose_of_not_named {steps : List Callable} (h : ∃ step ∈ steps, ¬ step.IsNamed)
    (store : Store) :
    compose (steps.map .callable) store = ⟨.error (.unmet .longNumber), [], store⟩ := by
  cases steps with
  | nil => simp at h
  | cons first rest =>
      rw [compose_map_cons, joinedName_of_not_named h]
      rfl

theorem compose_unnamed (store : Store) :
    compose [.callable unnamed] store = ⟨.error (.unmet .longNumber), [], store⟩ :=
  compose_of_not_named ⟨unnamed, List.mem_singleton_self _, not_isNamed_unnamed⟩ store

-- Bundling succeeds only for a first step and others, and keeps them.
theorem eq_composed_of_compose {steps : List Callable} {c : Callable} {store : Store}
    (h : (compose (steps.map .callable) store).outcome = .ok c) :
    ∃ name first rest, steps = first :: rest ∧ c = .composed store.next name first rest := by
  cases steps with
  | nil => cases h
  | cons first rest =>
      obtain hnamed | hunnamed := forall_isNamed_or_exists_not (first :: rest)
      · rw [compose_of_named hnamed] at h
        cases h
        exact ⟨_, first, rest, rfl, rfl⟩
      · rw [compose_of_not_named hunnamed] at h
        cases h

-- Lists of steps that come from each other by bundling steps in a row and by taking compositions
-- apart, any number of times, at any place and inside other compositions.
inductive Regrouped : List Callable → List Callable → Prop
  | refl (steps : List Callable) : Regrouped steps steps
  | symm {steps other : List Callable} : Regrouped steps other → Regrouped other steps
  | trans {steps middle other : List Callable} :
      Regrouped steps middle → Regrouped middle other → Regrouped steps other
  | bundle {steps : List Callable} {c : Callable} {store : Store} :
      (compose (steps.map .callable) store).outcome = .ok c → Regrouped steps [c]
  | within {steps other : List Callable} (before after : List Callable) :
      Regrouped steps other → Regrouped (before ++ steps ++ after) (before ++ other ++ after)

-- Steps in a row that can stand for others: with the same arguments they do the same.
def Interchangeable (host : Host) (steps other : List Callable) : Prop :=
  (steps = [] ↔ other = []) ∧ chain host steps = chain host other

theorem Interchangeable.after {steps other : List Callable}
    (h : Interchangeable host steps other) (more : List Callable) :
    Interchangeable host (steps ++ more) (other ++ more) := by
  obtain ⟨hempty, hchain⟩ := h
  refine ⟨by simp [hempty], ?_⟩
  by_cases hne : steps = []
  · rw [hne, hempty.mp hne]
  · funext args
    rw [chain_append hne, chain_append (fun he => hne (hempty.mpr he)), hchain]

-- Steps before others only decide what the first of these is called with.
theorem Interchangeable.before {steps other : List Callable}
    (h : Interchangeable host steps other) (front : List Callable) :
    Interchangeable host (front ++ steps) (front ++ other) := by
  obtain ⟨hempty, hchain⟩ := h
  refine ⟨by simp [hempty], ?_⟩
  by_cases hfront : front = []
  · simpa only [hfront, List.nil_append] using hchain
  by_cases hne : steps = []
  · rw [hne, hempty.mp hne]
  · have hother : other ≠ [] := fun he => hne (hempty.mpr he)
    funext args
    rw [chain_append hfront, chain_append hfront]
    congr 1
    funext env
    rw [foldlM_advance_eq_chain hne, foldlM_advance_eq_chain hother, hchain]

theorem Regrouped.interchangeable {steps other : List Callable} (h : Regrouped steps other) :
    Interchangeable host steps other := by
  induction h with
  | refl steps => exact ⟨Iff.rfl, rfl⟩
  | symm _ ih => exact ⟨ih.1.symm, ih.2.symm⟩
  | trans _ _ ih ih' => exact ⟨ih.1.trans ih'.1, ih.2.trans ih'.2⟩
  | bundle hcompose =>
      obtain ⟨name, first, rest, rfl, rfl⟩ := eq_composed_of_compose hcompose
      exact ⟨by simp, funext fun args => (chain_composed _ name first rest args).symm⟩
  | within before after _ ih => exact (ih.before before).after after

-- Steps of which one has no display name do not get through, in a row no more than bundled.
theorem chain_fails_of_not_named {steps : List Callable} (h : ∃ step ∈ steps, ¬ step.IsNamed)
    (args : List Value) (store : Store) :
    ∃ fault, (chain host steps args store).outcome = .error fault := by
  induction steps generalizing args store with
  | nil => simp at h
  | cons first rest ih =>
      by_cases hfirst : first.IsNamed
      · have hrest : ∃ step ∈ rest, ¬ step.IsNamed := by simpa [hfirst] using h
        have hne : rest ≠ [] := by
          rintro rfl
          simp at hrest
        cases hcalled : (called host first args store).outcome with
        | error fault => exact ⟨fault, by rw [chain, Run.bind_of_error hcalled]⟩
        | ok v =>
            obtain ⟨fault, hfault⟩ := ih hrest [v.snapshot] (called host first args store).store
            refine ⟨fault, ?_⟩
            rw [chain, Run.bind_of_ok hcalled, foldlM_advance_eq_chain hne]
            exact hfault
      · refine ⟨.unmet .longNumber, ?_⟩
        rw [chain, called_of_not_isNamed hfirst]
        rfl

-- A run of steps with one among them that has no display name fails.
theorem run_fails_of_not_named (host : Host) {args : Value} {items : List Value}
    (hargs : args.items? = some items) {steps : List Callable}
    (h : ∃ step ∈ steps, ¬ step.IsNamed) (store : Store) :
    ∃ fault, (run host args (stepList steps) store).outcome = .error fault := by
  rw [← Run.outcome_quiet, quiet_run_stepList host hargs]
  exact chain_fails_of_not_named h items store

-- Steps that can be bundled can be run bundled: for raw arguments in a list or a tuple, a run of
-- them in any place of a pipeline comes to what the run of their composition in this place comes
-- to, and so do all runs whose steps come from each other by bundling. Steps can be bundled if all
-- of them have display names. Otherwise bundling fails at once, and so do the runs, but only when
-- they come to the step without a name.
theorem run_composition_same (host : Host) {args : Value} {items : List Value}
    (hargs : args.items? = some items) :
    (∀ steps : List Callable, steps ≠ [] → ∀ store,
      ((∀ step ∈ steps, step.IsNamed) →
        ∃ c, (compose (steps.map .callable) store).outcome = .ok c ∧
          ∀ before after : List Callable,
            (run host args (stepList (before ++ steps ++ after))).SameButRecords
              (run host args (stepList (before ++ [c] ++ after)))) ∧
      ((∃ step ∈ steps, ¬ step.IsNamed) →
        compose (steps.map .callable) store = ⟨.error (.unmet .longNumber), [], store⟩ ∧
          ∀ before after : List Callable, ∃ fault,
            (run host args (stepList (before ++ steps ++ after)) store).outcome = .error fault)) ∧
    ∀ steps other : List Callable, Regrouped steps other →
      (run host args (stepList steps)).SameButRecords (run host args (stepList other)) := by
  have hall : ∀ steps other : List Callable, Regrouped steps other →
      (run host args (stepList steps)).SameButRecords (run host args (stepList other)) := by
    intro steps other h
    rw [Run.sameButRecords_iff, quiet_run_stepList host hargs, quiet_run_stepList host hargs]
    exact congrFun h.interchangeable.2 items
  refine ⟨fun steps hne store => ⟨?_, ?_⟩, hall⟩
  · intro hnamed
    cases steps with
    | nil => exact absurd rfl hne
    | cons first rest =>
        have hcompose := compose_of_named hnamed store
        exact ⟨_, hcompose, fun before after => hall _ _ (.within before after (.bundle hcompose))⟩
  · rintro ⟨step, hstep, hunnamed⟩
    refine ⟨compose_of_not_named ⟨step, hstep, hunnamed⟩ store, fun before after => ?_⟩
    have hwhole : step ∈ before ++ steps ++ after := by simp [hstep]
    exact run_fails_of_not_named host hargs ⟨step, hwhole, hunnamed⟩ store

-- Later steps of a smoke pipeline as one, and its first steps with this one as one.
theorem run_composition_nested :
    let run := run World.bare.host (.list [.int 25])
    ∃ inner outer : Callable,
      (compose ([BuiltIn.addOne, BuiltIn.nop].map .callable) .start).outcome = .ok inner ∧
      (compose ([BuiltIn.loadValue, inner].map .callable) .start).outcome = .ok outer ∧
      (run (stepList [BuiltIn.loadValue, BuiltIn.addOne, BuiltIn.nop])).SameButRecords
        (run (stepList [BuiltIn.loadValue, inner])) ∧
      (run (stepList
          [BuiltIn.loadValue, BuiltIn.addOne, BuiltIn.nop, BuiltIn.product])).SameButRecords
        (run (stepList [outer, BuiltIn.product])) := by
  intro run
  have hargs : (Value.list [.int 25]).items? = some [.int 25] := rfl
  obtain ⟨hbundled, hregrouped⟩ := run_composition_same World.bare.host hargs
  obtain ⟨inner, hinner, hsame⟩ :=
    (hbundled [BuiltIn.addOne, BuiltIn.nop] (List.cons_ne_nil _ _) .start).1
      (by simp [BuiltIn.addOne, BuiltIn.nop, BuiltIn.step])
  have hnamed : ∀ step ∈ [BuiltIn.loadValue, inner], step.IsNamed := by
    obtain ⟨name, first, rest, -, rfl⟩ := eq_composed_of_compose hinner
    simp [BuiltIn.loadValue, BuiltIn.step]
  have houter := compose_of_named hnamed .start
  refine ⟨inner, _, hinner, houter, hsame [BuiltIn.loadValue] [], hregrouped _ _ ?_⟩
  exact .trans (.within [BuiltIn.loadValue] [BuiltIn.product] (.bundle hinner))
    (.within [] [BuiltIn.product] (.bundle houter))

-- The first step is called in a run that comes to a step without a display name later, and is not
-- called where this step is to be bundled for the run.
theorem run_composition_distinguished :
    let host := World.bare.host
    let flat := run host (.list []) (stepList [noting, unnamed]) .start
    let bundled := (compose [.callable unnamed] >>= fun c =>
      run host (.list []) (stepList [noting, c])) .start
    flat.outcome = .error (.unmet .longNumber) ∧ flat.notes = ["loading"] ∧
      bundled.outcome = .error (.unmet .longNumber) ∧ bundled.notes = [] := by
  intro host flat bundled
  have hargs : (Value.list []).items? = some [] := rfl
  have hflat : flat.EndsAs [] ⟨.error (.unmet .longNumber), [.note "loading"], .start⟩ := by
    apply Reached.endsAs_nil_of_quiet_eq
    have hquiet : flat.quiet = chain host [noting, unnamed] [] .start :=
      congrFun (quiet_run_stepList host hargs [noting, unnamed]) .start
    have hcall : ((noting.call host []).quiet .start).outcome = .ok (.dict []) := rfl
    rw [hquiet, chain, called_of_isNamed ⟨_, rfl⟩, Run.bind_of_ok hcall, List.foldlM_cons, advance,
      called_of_not_isNamed not_isNamed_unnamed]
    rfl
  have hbundled : bundled = ⟨.error (.unmet .longNumber), [], .start⟩ := by
    have hcompose := compose_unnamed .start
    simp only [bundled]
    rw [Run.bind_of_error (congrArg Reached.outcome hcompose), hcompose]
  exact ⟨hflat.outcome, hflat.notes, congrArg Reached.outcome hbundled,
    congrArg Reached.notes hbundled⟩

end StepFlow.Pipeline
