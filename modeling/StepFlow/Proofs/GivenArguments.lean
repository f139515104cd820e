import StepFlow.Proofs.DeckGrammar
import StepFlow.Proofs.DeckPhases
import StepFlow.Proofs.Items
import StepFlow.Proofs.ShapeChecks

namespace StepFlow

theorem Reference.length_resolveAll {host : Host} {catalogue : Catalogue} {registry : Registry}
    {refs : List String} {store : Store} {steps : List Callable}
    (h : (resolveAll host catalogue registry refs store).outcome = .ok steps) :
    steps.length = refs.length := by
  induction refs generalizing store steps with
  | nil =>
      cases h
      rfl
  | cons ref refs ih =>
      rw [resolveAll, Run.outcome_bind_eq_ok_iff] at h
      obtain ⟨step, -, h⟩ := h
      obtain ⟨others, hothers, h⟩ := Run.outcome_bind_eq_ok_iff.mp h
      cases h
      exact congrArg Nat.succ (ih hothers)

namespace Deck

open Pipeline (stepList IsRunOf refusal)
open Reference (resolveAll)

variable {host : Host} {catalogue : Catalogue} {registry : Registry}
  {references : List String → Run (List Callable)} {payload given : Value} {deck : Deck}
  {steps : List Callable} {store : Store}

-- A deck has a reference at least, and so a step.
theorem steps_ne_nil_of_parse (h : parse payload = .ok deck) : deck.steps ≠ [] := by
  obtain ⟨_, -, ⟨_, items, -, -, hne, hrefs⟩, -⟩ := (parse_eq_ok_iff payload deck).mp h
  rintro hempty
  rw [hempty] at hrefs
  cases hrefs
  exact hne rfl

theorem exists_steps_of_resolveAll (hdeck : parse payload = .ok deck)
    (hsteps : (resolveAll host catalogue registry deck.steps store).outcome = .ok steps) :
    ∃ first rest, steps = first :: rest := by
  refine List.exists_cons_of_ne_nil fun hempty => steps_ne_nil_of_parse hdeck ?_
  rw [← List.length_eq_zero_iff, ← Reference.length_resolveAll hsteps, hempty]
  rfl

theorem runArgs_eq_itemsOf (hne : given ≠ .none) (deck : Deck) :
    deck.runArgs given = Run.itemsOf given := by
  cases given with
  | none => exact absurd rfl hne
  | _ => rfl

theorem runWith_given (hdeck : parse payload = .ok deck) (hne : given ≠ .none) :
    runWith host references payload given = (do
      let steps ← references deck.steps
      let items ← Run.itemsOf given
      Run.log .deck s!"running deck with {steps.length} step(s)"
      Pipeline.run host (.list items) (stepList steps)) := by
  rw [runWith, hdeck, ← runArgs_eq_itemsOf hne deck]
  rfl

-- What is given is listed after the references are resolved, and before anything is logged or run.
theorem runWith_of_not_iterable (hdeck : parse payload = .ok deck)
    (hsteps : (references deck.steps store).outcome = .ok steps) (hne : given ≠ .none)
    (hiterable : Run.isIterable given = false) :
    runWith host references payload given store =
      ⟨.error (.type (.notIterable given.operandType)), (references deck.steps store).events,
        (references deck.steps store).store⟩ := by
  rw [runWith_given hdeck hne, Run.bind_of_ok hsteps, Run.itemsOf_eq_fail hiterable]
  simp only [Run.fail_bind, Run.fail_apply, List.append_nil]

theorem runWith_of_isIterable (hdeck : parse payload = .ok deck)
    (hsteps : (references deck.steps store).outcome = .ok steps) (hne : given ≠ .none)
    (hiterable : Run.isIterable given = true) :
    let resolution := references deck.steps store
    let run := Pipeline.run host (.list (Run.yielded given resolution.store)) (stepList steps)
      (Run.exhausted given resolution.store)
    runWith host references payload given store =
      ⟨run.outcome, resolution.events ++
        .log .deck s!"running deck with {steps.length} step(s)" :: run.events, run.store⟩ := by
  have hlisted := Run.itemsOf_apply hiterable (references deck.steps store).store
  rw [runWith_given hdeck hne, Run.bind_of_ok hsteps,
    Run.bind_of_ok (congrArg Reached.outcome hlisted), hlisted]
  rfl

-- A pipeline refuses what is no list or tuple as arguments of its first step, and does nothing; if
-- this step has no display name, that is what it complains about. A deck of the same steps that is
-- given it lists its items. If it has none, that is the error, and nothing has happened but the
-- resolving of the references; else the steps are called with them.
theorem runData_lists_given (hdeck : parse payload = .ok deck)
    (hsteps : (resolveAll host catalogue registry deck.steps store).outcome = .ok steps)
    (hne : given ≠ .none) (hitems : given.items? = none) :
    let resolution := resolveAll host catalogue registry deck.steps store
    let reached := runData host catalogue registry payload given store
    (∃ first rest, steps = first :: rest ∧ ∀ later,
      Pipeline.run host given (stepList steps) later =
        ⟨.error (refusal first given), [], later⟩) ∧
    (Run.isIterable given = false →
      reached = ⟨.error (.type (.notIterable given.operandType)), resolution.events,
        resolution.store⟩) ∧
    (Run.isIterable given = true →
      let items := Run.yielded given resolution.store
      let listed := Run.exhausted given resolution.store
      let run := Pipeline.run host (.list items) (stepList steps) listed
      reached = ⟨run.outcome, resolution.events ++
        .log .deck s!"running deck with {steps.length} step(s)" :: run.events, run.store⟩ ∧
      IsRunOf host steps items listed run) := by
  intro resolution reached
  obtain ⟨first, rest, hcons⟩ := exists_steps_of_resolveAll hdeck hsteps
  refine ⟨⟨first, rest, hcons, fun later => ?_⟩, runWith_of_not_iterable hdeck hsteps hne,
    fun hiterable => ⟨runWith_of_isIterable hdeck hsteps hne hiterable, ?_⟩⟩
  · rw [hcons]
    exact congrFun (Pipeline.run_of_items?_eq_none rfl hitems) later
  · have hitems : (Value.list (Run.yielded given resolution.store)).items? =
        some (Run.yielded given resolution.store) := rfl
    rw [hcons, Pipeline.run_stepList host hitems]
    exact Pipeline.isRunOf_runSteps first rest _ _

-- A deck of one step.
def loadDeck : Value :=
  payloadOf ["load"]

theorem parse_loadDeck : parse loadDeck = .ok ⟨["load"], []⟩ := rfl

theorem resolveAll_load :
    resolveAll World.bare.host World.bare.catalogue toolRegistry ["load"] .start =
      ⟨.ok [BuiltIn.loadValue], [], .start⟩ :=
  congrFun (Reference.resolveAll_of_registered (.cons rfl .nil)) _

-- It is given a number, which has no items, and a set of one.
theorem runData_lists_given_load :
    let reached (given : Value) :=
      runData World.bare.host World.bare.catalogue toolRegistry loadDeck given .start
    reached (.int 5) = ⟨.error (.type (.notIterable "int")), [], .start⟩ ∧
    (reached (.set [.int 7])).outcome = .ok (.dict [(.str "var1", .int 7)]) := by
  intro reached
  have hsteps := congrArg Reached.outcome resolveAll_load
  obtain ⟨-, hnumber, -⟩ :=
    @runData_lists_given _ _ _ _ (.int 5) _ _ _ parse_loadDeck hsteps (by simp) rfl
  obtain ⟨-, -, hset⟩ :=
    @runData_lists_given _ _ _ _ (.set [.int 7]) _ _ _ parse_loadDeck hsteps (by simp) rfl
  rw [resolveAll_load] at hnumber hset
  exact ⟨hnumber rfl, congrArg Reached.outcome (hset rfl).1⟩

-- A text is taken apart into letters, one of which the first step is called with, while a pipeline
-- of the same steps refuses the text.
theorem runData_takes_text :
    (runData World.bare.host World.bare.catalogue toolRegistry loadDeck (.str "7") .start).outcome =
        .ok (.dict [(.str "var1", .str "7")]) ∧
      ∃ fault, Pipeline.run World.bare.host (.str "7") (stepList [BuiltIn.loadValue]) .start =
          ⟨.error fault, [], .start⟩ ∧
        fault.category = .argumentShape ∧ fault.stepName = .str "load_value" := by
  have hsteps := congrArg Reached.outcome resolveAll_load
  have hreached := @runWith_of_isIterable World.bare.host _ _ (.str "7") _ _ _ parse_loadDeck hsteps
    (by simp) rfl
  rw [resolveAll_load] at hreached
  have htext : (Value.str "7").items? = none := rfl
  have hlist : (stepList [BuiltIn.loadValue]).items? = some ([BuiltIn.loadValue].map .callable) :=
    rfl
  have hrefused := @Pipeline.run_of_items?_eq_none World.bare.host _ _ _ _ hlist htext
  exact ⟨congrArg Reached.outcome hreached, _, congrFun hrefused .start, rfl, rfl⟩

end Deck

end StepFlow
