import StepFlow.Native.Host
import StepFlow.Proofs.BodyCalls
import StepFlow.Proofs.Mapping
import Mathlib.Data.List.Forall2

namespace StepFlow

open Entries (union latest?)

-- A call that returns a mapping. No two entries of a mapping have one key.
def BodyCall.Returns (call : BodyCall) (contribution : Entries) : Prop :=
  ∃ v, call.reached.outcome = .ok v ∧ v.entries? = some contribution ∧ contribution.Distinct

namespace DeclaredStep

variable {host : Host} {step : DeclaredStep} {store : Store}

-- A body is called with values bound from contributions: a declared name has the value of the
-- last contribution with this key, else the default of the body at its place, else nothing.
def BoundFrom (step : DeclaredStep) (contributions : List Entries) (args : List Value) : Prop :=
  ∀ j : Nat, args[j]? = step.names[j]?.map fun name =>
    ((latest? contributions (.str name.word)).or step.defaults[j]?.join).getD .none

theorem boundFrom_operands (step : DeclaredStep) {contributions : List Entries}
    (h : ∀ c ∈ contributions, c.Distinct) :
    step.BoundFrom contributions (step.operands (union contributions)) := by
  intro j
  rw [getElem?_operands]
  simp only [Entries.get?, Entries.find?_union h]

theorem outcome_call_input {args : List Value} {contribution : Entries} (hkind : step.kind = .input)
    (htakes : step.declaration.takes args.length = true)
    (hreturns : BodyCall.Returns ⟨args, step.body.call host args store⟩ contribution) :
    ∃ v, (step.callable.call host args store).outcome = .ok v ∧
      v.entries? = some contribution := by
  obtain ⟨v, hbody, hv, _⟩ := hreturns
  refine ⟨v, ?_, hv⟩
  rw [call_input hkind, if_pos htakes, Run.bind_of_ok hbody, hv]
  rfl

theorem outcome_call_intermediate {v : Value} {env contribution : Entries}
    (hkind : step.kind = .intermediate) (hv : v.entries? = some env)
    (hreturns : BodyCall.Returns
      ⟨step.operands env, step.body.call host (step.operands env) store⟩ contribution) :
    (step.callable.call host [v] store).outcome = .ok (.dict (env.merge contribution)) := by
  obtain ⟨returned, hbody, hreturned, _⟩ := hreturns
  rw [call_intermediate hkind hv, Run.bind_of_ok hbody, hreturned]
  rfl

end DeclaredStep

-- What intermediate steps make of a value whose entries are the union of what was contributed
-- before: the union with what their bodies contribute. Each body is called with values bound from
-- what was contributed until then.
theorem foldlM_intermediate (host : Host) {steps : List DeclaredStep}
    (hsteps : ∀ step ∈ steps, step.kind = .intermediate) {before : List Entries} {v : Value}
    (hv : v.entries? = some (union before)) {store : Store} {contributions : List Entries}
    (hcalls : List.Forall₂ BodyCall.Returns (bodyCalls host steps [v.snapshot] store)
      contributions) :
    ((callables steps).foldlM (Pipeline.advance host) v store).outcome =
        .ok (if steps.isEmpty then v else .dict (union (before ++ contributions))) ∧
      contributions.length = steps.length ∧
      ∀ (i : Nat) (step : DeclaredStep) (call : BodyCall), steps[i]? = some step →
        (bodyCalls host steps [v.snapshot] store)[i]? = some call →
        call.args = step.operands (union (before ++ contributions.take i)) := by
  induction steps generalizing before v store contributions with
  | nil =>
      rw [bodyCalls, List.forall₂_nil_left_iff] at hcalls
      subst hcalls
      exact ⟨rfl, rfl, fun i step call h => by simp at h⟩
  | cons step steps ih =>
      have hkind : step.kind = .intermediate := hsteps step (by simp)
      have hsnapshot : v.snapshot.entries? = some (union before) :=
        (Value.entries?_snapshot v).trans hv
      have hargs : step.bodyArgs? [v.snapshot] = some (step.operands (union before)) := by
        rw [DeclaredStep.bodyArgs?_singleton (by simp [hkind]), hsnapshot, Option.map_some]
      obtain ⟨-, hstore⟩ := DeclaredStep.effects_call host hargs store
      rw [bodyCalls_of_some hargs] at hcalls ⊢
      obtain ⟨contribution, more, hreturns, htail, rfl⟩ := List.forall₂_cons_left_iff.mp hcalls
      have hcall := DeclaredStep.outcome_call_intermediate hkind hsnapshot hreturns
      rw [← Entries.union_concat] at hcall
      rw [hcall] at htail ⊢
      obtain ⟨houtcome, hlength, hseen⟩ :=
        ih (fun s hs => hsteps s (List.mem_cons_of_mem _ hs)) rfl htail
      refine ⟨?_, by simp [hlength], ?_⟩
      · rw [callables_cons, List.foldlM_cons, Pipeline.advance, step.called_callable,
          Run.bind_of_ok ((Run.outcome_quiet ..).trans hcall), Run.store_quiet, hstore, houtcome]
        cases steps with
        | nil =>
            have hmore : more = [] := List.length_eq_zero_iff.mp hlength
            simp [hmore]
        | cons => simp
      · intro i s call hs hi
        cases i with
        | zero =>
            simp only [List.getElem?_cons_zero, Option.some.injEq] at hs hi
            simp [← hs, ← hi]
        | succ i =>
            simp only [List.getElem?_cons_succ] at hs hi
            rw [hseen i s call hs hi]
            simp

theorem distinct_of_returns {calls : List BodyCall} {contributions : List Entries}
    (h : List.Forall₂ BodyCall.Returns calls contributions) :
    ∀ c ∈ contributions, c.Distinct := by
  induction h with
  | nil => simp
  | cons hreturns _ ih =>
      obtain ⟨_, _, _, hdistinct⟩ := hreturns
      simpa [hdistinct] using ih

-- A pipeline of an input step and one or more intermediate steps whose bodies all return mappings
-- returns the union of these. Each body is called once, in order: that of the input step with the
-- raw arguments, that of an intermediate step with values bound from what was contributed before.
theorem run_threads_environment (host : Host) {args : Value} {items : List Value}
    (hargs : args.items? = some items) {first : DeclaredStep} (hfirst : first.kind = .input)
    {steps : List DeclaredStep} (hsteps : ∀ step ∈ steps, step.kind = .intermediate)
    (hne : steps ≠ []) {store : Store} {initial : Entries} {contributions : List Entries}
    (hcalls : List.Forall₂ BodyCall.Returns (bodyCalls host (first :: steps) items store)
      (initial :: contributions)) :
    (∃ env : Entries, (Pipeline.run host args
          (Pipeline.stepList (callables (first :: steps))) store).outcome = .ok (.dict env) ∧
        env.IsUnion (initial :: contributions)) ∧
      (Pipeline.run host args (Pipeline.stepList (callables (first :: steps))) store).notes =
        (bodyCalls host (first :: steps) items store).flatMap (fun call => call.reached.notes) ∧
      contributions.length = steps.length ∧
      (bodyCalls host (first :: steps) items store).head?.map BodyCall.args = some items ∧
      ∀ (i : Nat) (step : DeclaredStep) (call : BodyCall), steps[i]? = some step →
        (bodyCalls host (first :: steps) items store)[i + 1]? = some call →
        step.BoundFrom ((initial :: contributions).take (i + 1)) call.args := by
  have hdistinct := distinct_of_returns hcalls
  have hnotes := notes_run host hargs (first :: steps) store
  have hquiet := congrFun
    (Pipeline.quiet_run_stepList host hargs (callables (first :: steps))) store
  cases hoperands : first.bodyArgs? items with
  | none =>
      rw [bodyCalls_of_none hoperands] at hcalls
      cases hcalls
  | some operands =>
      obtain ⟨-, hstore⟩ := DeclaredStep.effects_call host hoperands store
      obtain ⟨htakes, rfl⟩ := (DeclaredStep.bodyArgs?_input_eq_some_iff hfirst).mp hoperands
      rw [bodyCalls_of_some hoperands] at hcalls hnotes ⊢
      obtain ⟨hreturns, htail⟩ := List.forall₂_cons.mp hcalls
      obtain ⟨v, hcall, hv⟩ := DeclaredStep.outcome_call_input hfirst htakes hreturns
      rw [hcall] at htail
      have hunion : v.entries? = some (union [initial]) := by
        rw [hv, Entries.union_singleton (hdistinct initial (by simp))]
      obtain ⟨houtcome, hlength, hseen⟩ := foldlM_intermediate host hsteps hunion htail
      refine ⟨⟨union (initial :: contributions), ?_, Entries.isUnion_union hdistinct⟩, hnotes,
        hlength, rfl, ?_⟩
      · have hrun : (Pipeline.chain host (callables (first :: steps)) items store).outcome =
            .ok (.dict (union (initial :: contributions))) := by
          rw [callables_cons, Pipeline.chain, first.called_callable,
            Run.bind_of_ok ((Run.outcome_quiet ..).trans hcall), Run.store_quiet, hstore, houtcome]
          simp [hne]
        rw [← hrun, ← hquiet, Run.outcome_quiet]
      · intro i step call hs hi
        rw [hcall, List.getElem?_cons_succ] at hi
        rw [hseen i step call hs hi]
        exact step.boundFrom_operands fun c hc => hdistinct c (List.mem_of_mem_take hc)

-- An input step with a whole number as a key, and a step that contributes a value for the truth
-- value that is the same key, from a name that it finds and one that it has a default for.
def loadNumbered : DeclaredStep :=
  ⟨100, ⟨.input, "load", ["value"], none,
    .function 100 ⟨"load", [BuiltIn.param "value"],
      .dict [(.lit (.int 1), .var "value"), (.lit (.str "a"), .lit (.str "x"))], none⟩, .none⟩⟩

def relabel : DeclaredStep :=
  ⟨101, ⟨.intermediate, "relabel", ["a", "b"], none,
    .function 101 ⟨"relabel", [BuiltIn.param "a", ⟨"b", .positionalOrKeyword, some (.str "y")⟩],
      .dict [(.lit (.bool true), .var "a"), (.lit (.str "c"), .var "b")], none⟩, .none⟩⟩

theorem run_threads_colliding :
    let contributions : List Entries :=
      [[(.int 1, .none), (.str "a", .str "x")], [(.bool true, .str "x"), (.str "c", .str "y")]]
    (∃ env : Entries, (Pipeline.run World.bare.host (.list [.none])
        (Pipeline.stepList (callables [loadNumbered, relabel])) .start).outcome = .ok (.dict env) ∧
      env.IsUnion contributions) ∧
    ∀ call : BodyCall, (bodyCalls World.bare.host [loadNumbered, relabel] [.none] .start)[1]? =
      some call → relabel.BoundFrom (contributions.take 1) call.args := by
  intro contributions
  have hargs : (Value.list [.none]).items? = some [.none] := rfl
  have hsteps : ∀ step ∈ [relabel], step.kind = .intermediate := by
    intro step hstep
    rw [List.mem_singleton.mp hstep]
    rfl
  have hcalls : List.Forall₂ BodyCall.Returns
      (bodyCalls World.bare.host [loadNumbered, relabel] [.none] .start) contributions := by
    refine .cons ⟨_, rfl, rfl, ?_⟩ (.cons ⟨_, rfl, rfl, ?_⟩ .nil)
    · exact Entries.distinct_cons.mpr ⟨rfl, Entries.distinct_cons.mpr ⟨rfl, .nil⟩⟩
    · exact Entries.distinct_cons.mpr ⟨rfl, Entries.distinct_cons.mpr ⟨rfl, .nil⟩⟩
  obtain ⟨hunion, -, -, -, hbound⟩ :=
    run_threads_environment World.bare.host hargs rfl hsteps (List.cons_ne_nil _ _) hcalls
  exact ⟨hunion, fun call hcall => hbound 0 relabel call rfl hcall⟩

end StepFlow
