import StepFlow.Native.Host
import StepFlow.Proofs.BodyCalls

namespace StepFlow

theorem Value.plain_ofName (name : Name) : (Value.ofName name).plain = name.plain := by
  cases name <;> rfl

-- A step of a pipeline that breaks off the run, with its place and with the value that is no
-- mapping.
structure Offence where
  index : Nat
  step : DeclaredStep
  breach : Breach
  value : Value

namespace Offence

def fault (o : Offence) : Fault :=
  .contract o.breach o.step.kind (.ofName o.step.name) o.value.typeName

def text : Offence → String
  | ⟨_, step, .expectsEnvironment, v⟩ =>
    s!"{step.kind.word} step {step.name.plain} expects an environment, got {v.typeName}."
  | ⟨_, step, .returnsNoEnvironment, v⟩ =>
    s!"{step.kind.word} step {step.name.plain} must return an environment, got {v.typeName}."

-- How many bodies have been called when the run breaks off. A step that is handed no mapping does
-- not call its own.
def bodies (o : Offence) : Nat :=
  match o.breach with
  | .expectsEnvironment => o.index
  | .returnsNoEnvironment => o.index + 1

-- The same offence with one more step in front.
def next (o : Offence) : Offence :=
  { o with index := o.index + 1 }

theorem bodies_next (o : Offence) : o.next.bodies = o.bodies + 1 := by
  obtain ⟨index, step, breach, v⟩ := o
  cases breach <;> rfl

theorem message_fault (o : Offence) : o.fault.message = o.text := by
  obtain ⟨index, step, breach, v⟩ := o
  cases breach with
  | expectsEnvironment => rw [text, ← Value.plain_ofName]; rfl
  | returnsNoEnvironment => rw [text, ← Value.plain_ofName]; rfl

end Offence

-- An offence among steps, by what their bodies have returned in order. Either the kind of a step
-- asks for a mapping and its body returned none, or an output step before it returned none.
inductive Offends (steps : List DeclaredStep) (returned : List Value) : Offence → Prop
  | returns {k : Nat} {step : DeclaredStep} {v : Value} (hstep : steps[k]? = some step)
      (hkind : step.kind ≠ .output) (hreturned : returned[k]? = some v)
      (hv : v.entries? = none) : Offends steps returned ⟨k, step, .returnsNoEnvironment, v⟩
  | expects {k : Nat} {before step : DeclaredStep} {v : Value} (hbefore : steps[k]? = some before)
      (hkind : before.kind = .output) (hreturned : returned[k]? = some v)
      (hv : v.entries? = none) (hstep : steps[k + 1]? = some step) :
      Offends steps returned ⟨k + 1, step, .expectsEnvironment, v⟩

namespace Offends

variable {step : DeclaredStep} {steps : List DeclaredStep} {v : Value} {returned : List Value}
  {o : Offence}

theorem next (h : Offends steps returned o) : Offends (step :: steps) (v :: returned) o.next := by
  cases h with
  | returns hstep hkind hreturned hv => exact .returns hstep hkind hreturned hv
  | expects hbefore hkind hreturned hv hstep => exact .expects hbefore hkind hreturned hv hstep

-- An offence is one of the first step, or one of the second step for what the first has returned,
-- or it is found among the steps after the first.
theorem cons_cases (h : Offends (step :: steps) (v :: returned) o) :
    (v.entries? = none ∧
      (step.kind ≠ .output ∧ o = ⟨0, step, .returnsNoEnvironment, v⟩ ∨
        step.kind = .output ∧ ∃ s, steps.head? = some s ∧ o = ⟨1, s, .expectsEnvironment, v⟩)) ∨
      ∃ other, Offends steps returned other ∧ o = other.next := by
  cases h with
  | @returns k s w hstep hkind hreturned hw =>
      cases k with
      | zero =>
          cases hstep
          cases hreturned
          exact .inl ⟨hw, .inl ⟨hkind, rfl⟩⟩
      | succ k => exact .inr ⟨_, .returns hstep hkind hreturned hw, rfl⟩
  | @expects k before s w hbefore hkind hreturned hw hstep =>
      cases k with
      | zero =>
          cases hbefore
          cases hreturned
          rw [List.getElem?_cons_succ, ← List.head?_eq_getElem?] at hstep
          exact .inl ⟨hw, .inr ⟨hkind, s, hstep, rfl⟩⟩
      | succ k => exact .inr ⟨_, .expects hbefore hkind hreturned hw hstep, rfl⟩

theorem not_nil : ¬ Offends steps [] o := by
  rintro (⟨_, _, hreturned, _⟩ | ⟨_, _, hreturned, _, _⟩) <;> cases hreturned

end Offends

-- What a step hands on, from what it was handed and what its body returned.
def DeclaredStep.handsOn (step : DeclaredStep) (handed returned : Value) : Value :=
  match step.kind with
  | .intermediate => .dict ((handed.entries?.getD []).merge (returned.entries?.getD []))
  | .input | .output => returned

-- The value of the last of steps in a row.
def lastValue (steps : List DeclaredStep) (returned : List Value) (handed : Value) : Value :=
  (steps.zip returned).foldl (fun v (step, w) => step.handsOn v w) handed

-- What a run comes to whose bodies have returned values, in order: the value of the last step after
-- all bodies have been called, or the fault of its only offence.
inductive Verdict (steps : List DeclaredStep) (returned : List Value) (handed : Value) :
    Except Fault Value → Prop
  | kept (hnone : ∀ o, ¬ Offends steps returned o) (hall : returned.length = steps.length) :
      Verdict steps returned handed (.ok (lastValue steps returned handed))
  | broken {o : Offence} (ho : Offends steps returned o)
      (honly : ∀ other, Offends steps returned other → other = o)
      (hbodies : returned.length = o.bodies) : Verdict steps returned handed (.error o.fault)

theorem Verdict.nil (handed : Value) : Verdict [] [] handed (.ok handed) :=
  .kept (fun _ => Offends.not_nil) rfl

theorem Verdict.cons {step : DeclaredStep} {steps : List DeclaredStep} {v handed : Value}
    {returned : List Value} {outcome : Except Fault Value}
    (hv : v.entries? = none → step.kind = .output ∧ steps = [])
    (h : Verdict steps returned (step.handsOn handed v) outcome) :
    Verdict (step :: steps) (v :: returned) handed outcome := by
  have hcases : ∀ o, Offends (step :: steps) (v :: returned) o →
      ∃ other, Offends steps returned other ∧ o = other.next := by
    intro o ho
    rcases ho.cons_cases with ⟨hnone, hfirst⟩ | hlater
    · obtain ⟨houtput, rfl⟩ := hv hnone
      rcases hfirst with ⟨hkind, -⟩ | ⟨-, s, hs, -⟩
      · exact absurd houtput hkind
      · cases hs
    · exact hlater
  cases h with
  | kept hnone hall =>
      refine .kept (fun o ho => ?_) (congrArg Nat.succ hall)
      obtain ⟨other, hother, -⟩ := hcases o ho
      exact hnone other hother
  | @broken o ho honly hbodies =>
      refine .broken (o := o.next) ho.next (fun other hother => ?_) ?_
      · obtain ⟨later, hlater, rfl⟩ := hcases other hother
        rw [honly later hlater]
      · rw [List.length_cons, hbodies, Offence.bodies_next]

namespace DeclaredStep

variable {step : DeclaredStep} {args : List Value} {handed v : Value}

-- A step refuses what its body returns if its kind asks for a mapping and it is none.
theorem judge_of_refused (hkind : step.kind ≠ .output) (hv : v.entries? = none)
    (args : List Value) : step.judge args v = .error (step.returnsNoEnvironment v) := by
  cases h : step.kind with
  | output => exact absurd h hkind
  | input => simp [judge, h, hv]
  | intermediate => simp [judge, h, hv]

-- Otherwise it hands on what it makes of it.
theorem judge_of_accepted (hargs : step.kind ≠ .input → args = [handed.snapshot])
    (hv : v.entries? = none → step.kind = .output) :
    step.judge args v = .ok (step.handsOn handed v) := by
  cases h : step.kind with
  | output => simp [judge, handsOn, h]
  | input =>
      have hmapping : v.entries?.isSome = true := by
        rw [Option.isSome_iff_ne_none]
        exact fun hnone => by simp [hv hnone] at h
      simp [judge, handsOn, h, hmapping]
  | intermediate =>
      cases hentries : v.entries? with
      | none => simp [hv hentries] at h
      | some added =>
          simp [judge, handsOn, h, hentries, hargs (by simp [h]), Value.entries?_snapshot]

theorem handsOn_of_output (hkind : step.kind = .output) : step.handsOn handed v = v := by
  simp only [handsOn, hkind]

-- A step hands on a mapping unless it is an output step whose body returned none.
theorem entries?_handsOn_eq_none_iff (hv : v.entries? = none → step.kind = .output) :
    (step.handsOn handed v).entries? = none ↔ v.entries? = none := by
  cases h : step.kind with
  | input => simp only [handsOn, h]
  | output => simp only [handsOn, h]
  | intermediate =>
      simp only [handsOn, h, Value.entries?, reduceCtorEq, false_iff]
      exact fun hnone => by simp [hv hnone] at h

end DeclaredStep

section

variable {host : Host} {step : DeclaredStep} {steps : List DeclaredStep}
  {args operands returned : List Value} {handed v : Value} {store : Store}

-- What bodies have returned, if none of them has failed.
def Returned (calls : List BodyCall) (returned : List Value) : Prop :=
  calls.map (fun call => call.reached.outcome) = returned.map .ok

theorem returned_nil_iff : Returned [] returned ↔ returned = [] := by
  rw [Returned, List.map_nil, eq_comm, List.map_eq_nil_iff]

theorem returned_cons {call : BodyCall} {calls : List BodyCall}
    (h : Returned (call :: calls) returned) :
    ∃ v rest, returned = v :: rest ∧ call.reached.outcome = .ok v ∧ Returned calls rest := by
  cases returned with
  | nil => cases h
  | cons v rest =>
      obtain ⟨hcall, hcalls⟩ := List.cons.inj h
      exact ⟨v, rest, rfl, hcall, hcalls⟩

theorem outcome_call (hoperands : step.bodyArgs? args = some operands)
    (hbody : (step.body.call host operands store).outcome = .ok v) :
    (step.callable.call host args store).outcome = step.judge args v := by
  rw [DeclaredStep.call_of_bodyArgs?_eq_some hoperands, Run.bind_of_ok hbody]
  rfl

theorem outcome_chain_of_error {fault : Fault}
    (h : (step.callable.call host args store).outcome = .error fault) :
    (Pipeline.chain host (callables (step :: steps)) args store).outcome = .error fault := by
  rw [callables_cons, Pipeline.chain, step.called_callable,
    Run.bind_of_error ((Run.outcome_quiet ..).trans h)]

theorem outcome_chain_of_ok {next : Value}
    (h : (step.callable.call host args store).outcome = .ok next) :
    (Pipeline.chain host (callables (step :: steps)) args store).outcome =
      ((callables steps).foldlM (Pipeline.advance host) next
        (step.callable.call host args store).store).outcome := by
  rw [callables_cons, Pipeline.chain, step.called_callable,
    Run.bind_of_ok ((Run.outcome_quiet ..).trans h), Run.store_quiet]

-- A step that is handed no mapping does not call its body.
theorem bodyCalls_of_entries?_eq_none (hkind : step.kind ≠ .input) (hv : v.entries? = none) :
    bodyCalls host (step :: steps) [v.snapshot] store = [] := by
  apply bodyCalls_of_none
  rw [DeclaredStep.bodyArgs?_singleton hkind, v.entries?_snapshot, hv, Option.map_none]

theorem outcome_foldlM_of_entries?_eq_none (hkind : step.kind ≠ .input) (hv : v.entries? = none) :
    ((callables (step :: steps)).foldlM (Pipeline.advance host) v store).outcome =
      .error (step.expectsEnvironment v) := by
  rw [callables_cons, List.foldlM_cons, Pipeline.advance, step.called_callable,
    Value.snapshot_of_entries?_eq_none hv, DeclaredStep.call_of_entries?_eq_none hkind hv]
  rfl

-- The step lemma: the verdict on steps of which the first gets to its body, given the verdict on
-- the others whenever they are handed a mapping. If the first is an output step that returned none,
-- it is the second one that is to blame.
theorem verdict_step (hrest : ∀ s ∈ steps, s.kind ≠ .input)
    (hoperands : step.bodyArgs? args = some operands)
    (hargs : step.kind ≠ .input → args = [handed.snapshot])
    (hbodies : Returned (bodyCalls host (step :: steps) args store) returned)
    (hsteps : ∀ (next : Value) (env : Entries) (rest : List Value) (left : Store),
      next.entries? = some env → Returned (bodyCalls host steps [next.snapshot] left) rest →
        Verdict steps rest next
          ((callables steps).foldlM (Pipeline.advance host) next left).outcome) :
    Verdict (step :: steps) returned handed
      (Pipeline.chain host (callables (step :: steps)) args store).outcome := by
  obtain ⟨-, hstore⟩ := DeclaredStep.effects_call host hoperands store
  rw [bodyCalls_of_some hoperands] at hbodies
  obtain ⟨v, rest, rfl, hbody, htail⟩ := returned_cons hbodies
  have hcall := outcome_call hoperands hbody
  by_cases hrefused : step.kind ≠ .output ∧ v.entries? = none
  · obtain ⟨hkind, hv⟩ := hrefused
    rw [DeclaredStep.judge_of_refused hkind hv] at hcall
    rw [hcall] at htail
    obtain rfl := returned_nil_iff.mp htail
    rw [outcome_chain_of_error hcall]
    refine .broken (o := ⟨0, step, .returnsNoEnvironment, v⟩) (.returns rfl hkind rfl hv) ?_ rfl
    intro other hother
    rcases hother.cons_cases with ⟨-, ⟨-, h⟩ | ⟨h, -⟩⟩ | ⟨_, h, -⟩
    · exact h
    · exact absurd h hkind
    · exact absurd h Offends.not_nil
  · have hv : v.entries? = none → step.kind = .output :=
      fun hnone => Decidable.byContradiction fun hkind => hrefused ⟨hkind, hnone⟩
    rw [DeclaredStep.judge_of_accepted hargs hv] at hcall
    rw [hcall] at htail
    rw [outcome_chain_of_ok hcall, hstore]
    cases hentries : v.entries? with
    | some added =>
        have hmapping : (step.handsOn handed v).entries? ≠ none := fun hnone => by
          rw [DeclaredStep.entries?_handsOn_eq_none_iff hv, hentries] at hnone
          cases hnone
        obtain ⟨env, henv⟩ := Option.ne_none_iff_exists'.mp hmapping
        exact .cons (by simp [hentries]) (hsteps _ env rest _ henv htail)
    | none =>
        have hkind := hv hentries
        cases steps with
        | nil =>
            obtain rfl := returned_nil_iff.mp htail
            exact .cons (fun _ => ⟨hkind, rfl⟩) (.nil _)
        | cons s ss =>
            have hs := hrest s (List.mem_cons_self ..)
            rw [DeclaredStep.handsOn_of_output hkind] at htail ⊢
            simp only [bodyCalls_of_entries?_eq_none hs hentries] at htail
            obtain rfl := returned_nil_iff.mp htail
            rw [outcome_foldlM_of_entries?_eq_none hs hentries]
            refine .broken (o := ⟨1, s, .expectsEnvironment, v⟩)
              (.expects rfl hkind rfl hentries rfl) ?_ rfl
            intro other hother
            rcases hother.cons_cases with ⟨-, ⟨h, -⟩ | ⟨-, t, ht, h⟩⟩ | ⟨_, h, -⟩
            · exact absurd hkind h
            · cases ht
              exact h
            · exact absurd h Offends.not_nil

-- The run lemma: the verdict on steps that are handed a mapping.
theorem verdict_foldlM {env : Entries} (hrest : ∀ s ∈ steps, s.kind ≠ .input)
    (henv : v.entries? = some env)
    (hbodies : Returned (bodyCalls host steps [v.snapshot] store) returned) :
    Verdict steps returned v
      ((callables steps).foldlM (Pipeline.advance host) v store).outcome := by
  induction steps generalizing v env returned store with
  | nil =>
      obtain rfl := returned_nil_iff.mp hbodies
      exact .nil v
  | cons step steps ih =>
      have hkind := hrest step (List.mem_cons_self ..)
      have hlater : ∀ s ∈ steps, s.kind ≠ .input := fun s hs => hrest s (List.mem_cons_of_mem _ hs)
      have hoperands : step.bodyArgs? [v.snapshot] = some (step.operands env) := by
        rw [DeclaredStep.bodyArgs?_singleton hkind, v.entries?_snapshot, henv, Option.map_some]
      rw [Pipeline.foldlM_advance_eq_chain (callables_ne_nil (List.cons_ne_nil _ _))]
      exact verdict_step hlater hoperands (fun _ => rfl) hbodies
        fun next env' rest left hnext => ih hlater hnext

end

-- A pipeline of an input step that takes the number of arguments it is called with and of any other
-- steps after it, where no body fails. It fails exactly if there is an offence, which then is the
-- only one and says what the error is: whom it blames, what it says, and that no body is called any
-- more, not even that of a step that is handed no mapping. Without one all bodies are called and
-- the value of the last step is returned.
theorem run_blames_offence (host : Host) {args : Value} {items : List Value}
    (hargs : args.items? = some items) {first : DeclaredStep} (hfirst : first.kind = .input)
    (htakes : first.declaration.takes items.length = true) {rest : List DeclaredStep}
    (hrest : ∀ step ∈ rest, step.kind ≠ .input) {store : Store} {returned : List Value}
    (hbodies : Returned (bodyCalls host (first :: rest) items store) returned) :
    let steps := first :: rest
    let calls := bodyCalls host steps items store
    let reached := Pipeline.run host args (Pipeline.stepList (callables steps)) store
    ((∃ fault, reached.outcome = .error fault ∧ fault.category.isOf .contract = true) ↔
      ∃ o, Offends steps returned o) ∧
    (∀ o, Offends steps returned o → (∀ other, Offends steps returned other → other = o) ∧
      (∃ fault, reached.outcome = .error fault ∧ fault.category = .contract ∧
        fault.stepName = .ofName o.step.name ∧ fault.stepKind? = some o.step.kind ∧
        fault.message = o.text) ∧ calls.length = o.bodies) ∧
    ((¬ ∃ o, Offends steps returned o) → reached.outcome = .ok (lastValue steps returned .none) ∧
      calls.length = steps.length) ∧
    reached.notes = calls.flatMap fun call => call.reached.notes := by
  intro steps calls reached
  have hnotes := notes_run host hargs steps store
  have hquiet := congrFun (Pipeline.quiet_run_stepList host hargs (callables steps)) store
  have hlength : calls.length = returned.length := by
    simpa using congrArg List.length hbodies
  have hverdict : Verdict steps returned .none reached.outcome := by
    rw [← Run.outcome_quiet, hquiet]
    refine verdict_step hrest ((DeclaredStep.bodyArgs?_input_eq_some_iff hfirst).mpr ⟨htakes, rfl⟩)
      (fun hkind => absurd hfirst hkind) hbodies ?_
    intro next env later left hnext
    exact verdict_foldlM hrest hnext
  generalize reached.outcome = outcome at hverdict ⊢
  cases hverdict with
  | kept hnone hall =>
      refine ⟨⟨?_, fun ⟨o, ho⟩ => absurd ho (hnone o)⟩, fun o ho => absurd ho (hnone o),
        fun _ => ⟨rfl, hlength.trans hall⟩, hnotes⟩
      rintro ⟨fault, hfault, -⟩
      cases hfault
  | @broken o ho honly hcount =>
      refine ⟨⟨fun _ => ⟨o, ho⟩, fun _ => ⟨o.fault, rfl, rfl⟩⟩, ?_,
        fun hnone => absurd ⟨o, ho⟩ hnone, hnotes⟩
      intro other hother
      obtain rfl := honly other hother
      exact ⟨honly, ⟨_, rfl, rfl, rfl, rfl, other.message_fault⟩, hlength.trans hcount⟩

-- A step whose parameters are those of its body.
def DeclaredStep.ofBody (serial : Nat) (kind : StepKind) (name : String) (params : List String)
    (body : Expr) : DeclaredStep :=
  ⟨serial, ⟨kind, name, params.map .text, none,
    .function serial ⟨name, params.map BuiltIn.param, body, none⟩, .none⟩⟩

-- An input step, an output step that returns a mapping, one that returns a number, and a step that
-- comes after it.
def loadSide : DeclaredStep :=
  .ofBody 100 .input "load" ["side"] (.dict [(.lit (.str "side"), .var "side")])

def describeSquare : DeclaredStep :=
  .ofBody 101 .output "describe" ["side"]
    (.dict [(.lit (.str "width"), .var "side"), (.lit (.str "height"), .var "side")])

def measureArea : DeclaredStep :=
  .ofBody 102 .output "area" ["width", "height"] (.binary .mul (.var "width") (.var "height"))

def doubleArea : DeclaredStep :=
  .ofBody 103 .intermediate "double" ["area"]
    (.dict [(.lit (.str "area"), .binary .mul (.var "area") (.lit (.int 2)))])

theorem run_blames_double :
    let steps := [loadSide, describeSquare, measureArea, doubleArea]
    let reached :=
      Pipeline.run World.bare.host (.list [.int 5]) (Pipeline.stepList (callables steps)) .start
    (∃ fault, reached.outcome = .error fault ∧ fault.stepName = .str "double" ∧
      fault.stepKind? = some .intermediate ∧
      fault.message = "intermediate step double expects an environment, got int.") ∧
    (bodyCalls World.bare.host steps [.int 5] .start).length = 3 := by
  intro steps reached
  have hrest : ∀ step ∈ [describeSquare, measureArea, doubleArea], step.kind ≠ .input := by
    simp [describeSquare, measureArea, doubleArea, DeclaredStep.ofBody, DeclaredStep.kind]
  let returned : List Value :=
    [.dict [(.str "side", .int 5)], .dict [(.str "width", .int 5), (.str "height", .int 5)],
      .int 25]
  have hbodies : Returned (bodyCalls World.bare.host steps [.int 5] .start) returned := rfl
  have hargs : (Value.list [.int 5]).items? = some [.int 5] := rfl
  have hfirst : loadSide.kind = .input := rfl
  obtain ⟨-, hoffence, -⟩ := run_blames_offence World.bare.host hargs hfirst rfl hrest hbodies
  have hoffends : Offends steps returned ⟨3, doubleArea, .expectsEnvironment, .int 25⟩ :=
    .expects rfl rfl rfl rfl rfl
  obtain ⟨-, ⟨fault, houtcome, -, hname, hkind, hmessage⟩, hcalls⟩ := hoffence _ hoffends
  exact ⟨⟨fault, houtcome, hname, hkind, hmessage⟩, hcalls⟩

end StepFlow
