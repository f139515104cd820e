import StepFlow.Proofs.Threading
import StepFlow.Proofs.Visibility

namespace StepFlow

namespace Entries

variable {entries other earlier later : Entries}

theorem perm_insert (hdistinct : Distinct entries) (hperm : entries.Perm other)
    (key value : Value) : (insert entries key value).Perm (insert other key value) := by
  induction hperm with
  | nil => exact .refl _
  | cons entry hperm ih =>
      obtain ⟨k, v⟩ := entry
      rw [insert, insert]
      split
      · exact hperm.cons _
      · exact (ih (distinct_cons.mp hdistinct).2).cons _
  | swap entry next entries =>
      obtain ⟨k, v⟩ := entry
      obtain ⟨k', v'⟩ := next
      have hother : k'.sameKey k = false :=
        (List.pairwise_cons.mp hdistinct).1 (k, v) List.mem_cons_self
      by_cases hk : k.sameKey key = true
      · rw [Value.sameKey_comm, Value.sameKey_congr hk, Value.sameKey_comm] at hother
        simpa [insert, hk, hother] using List.Perm.swap ..
      · by_cases hk' : k'.sameKey key = true
        · simpa [insert, hk, hk'] using List.Perm.swap ..
        · simpa [insert, hk, hk'] using List.Perm.swap ..
  | trans hfirst hsecond ih ih' =>
      exact (ih hdistinct).trans (ih' (hdistinct.perm hfirst))

-- Two keys can be stored in either order.
theorem perm_insert_insert (entries : Entries) {key key' : Value}
    (h : key.sameKey key' = false) (value value' : Value) :
    (insert (insert entries key value) key' value').Perm
      (insert (insert entries key' value') key value) := by
  induction entries with
  | nil =>
      have h' : key'.sameKey key = false := by rwa [Value.sameKey_comm]
      simpa [insert, h, h'] using List.Perm.swap ..
  | cons entry entries ih =>
      obtain ⟨k, v⟩ := entry
      by_cases hk : k.sameKey key = true
      · have hk' : k.sameKey key' = false := by rwa [Value.sameKey_congr hk]
        simp [insert, hk, hk']
      · by_cases hk' : k.sameKey key' = true
        · simp [insert, hk, hk']
        · simpa [insert, hk, hk'] using ih

theorem perm_merge (hdistinct : Distinct entries) (hperm : entries.Perm other) (later : Entries) :
    (merge entries later).Perm (merge other later) := by
  induction later generalizing entries other with
  | nil => exact hperm
  | cons entry later ih =>
      exact ih (distinct_insert hdistinct _ _) (perm_insert hdistinct hperm _ _)

-- What a mapping does not have can be stored before it is merged or afterwards.
theorem perm_merge_insert (hdistinct : Distinct earlier) {key : Value}
    (h : contains later key = false) (value : Value) :
    (merge (insert earlier key value) later).Perm (insert (merge earlier later) key value) := by
  induction later generalizing earlier with
  | nil => exact .refl _
  | cons entry later ih =>
      obtain ⟨k, v⟩ := entry
      simp only [contains_eq_any, keys, List.map_cons, List.any_cons, Bool.or_eq_false_iff] at h ih
      have hother : key.sameKey k = false := by rw [Value.sameKey_comm, h.1]
      have hswapped := perm_insert_insert earlier hother value v
      rw [merge_cons, merge_cons]
      exact (perm_merge (distinct_insert (distinct_insert hdistinct _ _) _ _) hswapped later).trans
        (ih (distinct_insert hdistinct _ _) h.2)

-- Mappings without a common key can be merged in either order.
theorem perm_merge_merge (hdistinct : Distinct earlier) {added added' : Entries}
    (h : ∀ key, contains added key = true → contains added' key = false) :
    (merge (merge earlier added) added').Perm (merge (merge earlier added') added) := by
  induction added generalizing earlier with
  | nil => exact .refl _
  | cons entry added ih =>
      obtain ⟨k, v⟩ := entry
      have hrest : ∀ key, contains added key = true → contains added' key = false := by
        intro key hkey
        refine h key ?_
        rw [contains_eq_any] at hkey ⊢
        rw [keys, List.map_cons, List.any_cons]
        exact Bool.or_eq_true_iff.mpr (.inr hkey)
      have hnew : contains added' k = false := h k (by simp [contains, find?_cons, Value.sameKey])
      rw [merge_cons, merge_cons]
      exact (ih (distinct_insert hdistinct _ _) hrest).trans
        (perm_merge (distinct_merge (distinct_insert hdistinct _ _) _)
          (perm_merge_insert hdistinct hnew v) added)

theorem contains_reverse (entries : Entries) (key : Value) :
    contains entries.reverse key = contains entries key := by
  rw [contains_eq_any, contains_eq_any, keys, keys, List.map_reverse, List.any_reverse]

-- Under each key the same is found.
theorem find?_merge_merge (earlier : Entries) {added added' : Entries}
    (h : ∀ key, contains added key = true → contains added' key = false) (key : Value) :
    find? (merge (merge earlier added) added') key =
      find? (merge (merge earlier added') added) key := by
  simp only [find?_merge]
  cases hfound : find? added.reverse key with
  | none => rw [Option.none_or, Option.none_or]
  | some v =>
      have hcontains : contains added key = true := by
        rw [← contains_reverse, contains, hfound, Option.isSome_some]
      have hnone : find? added'.reverse key = none := by
        rw [find?_eq_none_iff, contains_reverse]
        exact h key hcontains
      rw [hnone, Option.none_or, Option.some_or, Option.some_or]

end Entries

namespace Run

variable {α β : Type} {run : Run α} {states : Store → Prop}

-- A run that comes to one outcome from all stores of some kind, and leaves a store of this kind.
structure SteadyOn (states : Store → Prop) (run : Run α) : Prop where
  outcome : ∀ {store other}, states store → states other →
    (run store).outcome = (run other).outcome
  states : ∀ {store}, states store → states (run store).store

theorem SteadyOn.lift (outcome : Except Fault α) : (Run.lift outcome).SteadyOn states :=
  ⟨fun _ _ => rfl, fun h => h⟩

theorem SteadyOn.emit (event : Event) : (Run.emit event).SteadyOn states :=
  ⟨fun _ _ => rfl, fun h => h⟩

theorem SteadyOn.bind {next : α → Run β} (h : run.SteadyOn states)
    (hnext : ∀ a, (next a).SteadyOn states) : (run >>= next).SteadyOn states := by
  constructor
  · intro store other hstore hother
    have hsame := h.outcome hstore hother
    cases hrun : (run store).outcome with
    | error fault => rw [bind_of_error hrun, bind_of_error (hsame ▸ hrun)]
    | ok a =>
        rw [bind_of_ok hrun, bind_of_ok (hsame ▸ hrun)]
        exact (hnext a).outcome (h.states hstore) (h.states hother)
  · intro store hstore
    cases hrun : (run store).outcome with
    | error fault =>
        rw [bind_of_error hrun]
        exact h.states hstore
    | ok a =>
        rw [bind_of_ok hrun]
        exact (hnext a).states (h.states hstore)

end Run

namespace DeclaredStep

variable {host : Host} {step first second : DeclaredStep} {states : Store → Prop} {v : Value}
  {env added added' : Entries} {store : Store}

-- A step whose body is a function of what it is called with, as long as the store is of some kind.
def SteadyOn (host : Host) (states : Store → Prop) (step : DeclaredStep) : Prop :=
  ∀ operands, (step.body.call host operands).SteadyOn states

-- Then the step is one, too.
theorem SteadyOn.call (h : step.SteadyOn host states) (args : List Value) :
    (step.callable.call host args).SteadyOn states := by
  cases hoperands : step.bodyArgs? args with
  | none =>
      obtain ⟨fault, hcall⟩ := call_of_bodyArgs?_eq_none host hoperands
      rw [hcall]
      exact .lift (.error fault)
  | some operands =>
      rw [call_of_bodyArgs?_eq_some hoperands]
      exact (h operands).bind fun returned => .lift _

-- An intermediate step whose body returns one mapping for an environment in all stores of a kind.
structure Adds (host : Host) (states : Store → Prop) (step : DeclaredStep) (env : Entries)
    (store : Store) (added : Entries) : Prop where
  kind : step.kind = .intermediate
  steady : (step.body.call host (step.operands env)).SteadyOn states
  returns : BodyCall.Returns
    ⟨step.operands env, step.body.call host (step.operands env) store⟩ added

-- Then it adds the mapping to every environment that agrees on the names it declares.
theorem Adds.call {other : Entries} {left : Store}
    (h : first.Adds host states env store added) (hstore : states store) (hleft : states left)
    (hv : v.entries? = some other) (hagree : Entries.AgreeOn first.names other env) :
    (first.callable.call host [v] left).outcome = .ok (.dict (other.merge added)) ∧
      states (first.callable.call host [v] left).store := by
  have hoperands := operands_eq_of_agreeOn hagree
  have hcall : (first.body.call host (first.operands other) left).outcome =
      (first.body.call host (first.operands env) store).outcome :=
    hoperands ▸ h.steady.outcome hleft hstore
  constructor
  · obtain ⟨returned, hreturned, hadded⟩ := h.returns
    exact outcome_call_intermediate h.kind hv
      ⟨returned, hcall.trans hreturned, hadded⟩
  · have hargs : first.bodyArgs? [v] = some (first.operands env) := by
      rw [bodyArgs?_singleton (by rw [h.kind]; decide), hv, Option.map_some, hoperands]
    rw [(effects_call host hargs left).2]
    exact h.steady.states hleft

-- None of two steps declares what the other one adds, and they add nothing under a common key.
structure Independent (first second : DeclaredStep) (added added' : Entries) : Prop where
  unread : ∀ name ∈ second.names, added.contains (.str name.word) = false
  unread' : ∀ name ∈ first.names, added'.contains (.str name.word) = false
  disjoint : ∀ key, added.contains key = true → added'.contains key = false

theorem Independent.symm (h : Independent first second added added') :
    Independent second first added' added where
  unread := h.unread'
  unread' := h.unread
  disjoint := by
    intro key hkey
    rw [← Bool.not_eq_true]
    intro hadded
    cases hkey.symm.trans (h.disjoint key hadded)

theorem agreeOn_merge {names : List Name}
    (h : ∀ name ∈ names, added.contains (.str name.word) = false) (env : Entries) :
    Entries.AgreeOn names (env.merge added) env := by
  intro name hname
  have hnone := h name hname
  rw [← Entries.contains_reverse, ← Entries.find?_eq_none_iff] at hnone
  rw [Entries.get?, Entries.find?_merge, hnone, Option.none_or, Entries.get?]

end DeclaredStep

section

variable {host : Host} {first second : DeclaredStep} {states : Store → Prop} {v : Value}
  {env added added' : Entries} {store : Store}

open DeclaredStep (Adds Independent SteadyOn)

theorem steadyOn_runFrom {steps : List DeclaredStep}
    (h : ∀ step ∈ steps, step.SteadyOn host states) (index : Nat) (v : Value) :
    (runFrom host index (callables steps) v).SteadyOn states := by
  induction steps generalizing index v with
  | nil => exact .lift (.ok v)
  | cons step steps ih =>
      rw [callables_cons, Pipeline.runFrom_cons]
      refine (Run.SteadyOn.emit _).bind fun _ => ?_
      refine ((h step (by simp)).call [v.snapshot]).bind fun next => ?_
      exact ih (fun step hstep => h step (List.mem_cons_of_mem _ hstep)) (index + 1) next

-- After a step that succeeds a run goes on with what it has returned.
theorem runFrom_cons_of_ok {next : Value}
    (h : (first.callable.call host [v.snapshot] store).outcome = .ok next)
    (steps : List DeclaredStep) (index : Nat) :
    let reached := runFrom host index (callables (first :: steps)) v store
    let rest := runFrom host (index + 1) (callables steps) next
      (first.callable.call host [v.snapshot] store).store
    reached.outcome = rest.outcome ∧ reached.store = rest.store := by
  intro reached rest
  have hannounced : (announceStep index first.callable store).outcome = .ok () := rfl
  have hcall : (first.callable.call host [v.snapshot]
      (announceStep index first.callable store).store).outcome = .ok next := h
  simp only [reached]
  rw [callables_cons, Pipeline.runFrom_cons, Run.bind_of_ok hannounced, Run.bind_of_ok hcall]
  exact ⟨rfl, rfl⟩

-- The second of two independent steps adds what it would have added without the first.
theorem runFrom_pair (hv : v.entries? = some env) (hstore : states store)
    (hfirst : first.Adds host states env store added)
    (hsecond : second.Adds host states env store added')
    (h : Independent first second added added') (index : Nat) :
    (runFrom host index (callables [first, second]) v store).outcome =
        .ok (.dict ((env.merge added).merge added')) ∧
      states (runFrom host index (callables [first, second]) v store).store := by
  obtain ⟨hmade, hleft⟩ := hfirst.call hstore hstore (v.entries?_snapshot.trans hv) fun _ _ => rfl
  obtain ⟨hmerged, hend⟩ := hsecond.call hstore hleft (Value.entries?_snapshot (.dict _))
    (DeclaredStep.agreeOn_merge h.unread env)
  obtain ⟨houtcome, hstore'⟩ := runFrom_cons_of_ok hmade [second] index
  obtain ⟨houtcome', hstore''⟩ := runFrom_cons_of_ok hmerged [] (index + 1)
  rw [houtcome, houtcome', hstore', hstore'', callables, List.map_nil, Pipeline.runFrom_nil]
  exact ⟨rfl, hend⟩

theorem outcome_runFrom_append {steps : List DeclaredStep} {index : Nat} {next : Value}
    (h : (runFrom host index (callables steps) v store).outcome = .ok next)
    (more : List DeclaredStep) :
    (runFrom host index (callables (steps ++ more)) v store).outcome =
      (runFrom host (index + steps.length) (callables more) next
        (runFrom host index (callables steps) v store).store).outcome := by
  rw [callables, List.map_append, Pipeline.runFrom_append]
  rw [callables] at h
  rw [Run.bind_of_ok h, List.length_map, callables, callables]

-- Independent steps commute: in either order they succeed, with the same entries in another order.
-- Whatever intermediate steps and output step come after them, the run comes to the same from both,
-- as long as the two orders leave one store or the bodies of the further steps are steady, too.
theorem runFrom_comm (hv : v.entries? = some env) (henv : env.Distinct) (hstore : states store)
    (hfirst : first.Adds host states env store added)
    (hsecond : second.Adds host states env store added')
    (h : Independent first second added added') (index : Nat) :
    let reached := runFrom host index (callables [first, second]) v store
    let swapped := runFrom host index (callables [second, first]) v store
    (∃ entries entries' : Entries, reached.outcome = .ok (.dict entries) ∧
      swapped.outcome = .ok (.dict entries') ∧ entries.Perm entries') ∧
    ∀ (steps : List DeclaredStep) (last : DeclaredStep),
      (∀ step ∈ steps, step.kind = .intermediate) → last.kind = .output →
      (reached.store = swapped.store ∨ ∀ step ∈ steps ++ [last], step.SteadyOn host states) →
      (runFrom host index (callables ([first, second] ++ (steps ++ [last]))) v store).outcome =
        (runFrom host index (callables ([second, first] ++ (steps ++ [last]))) v
          store).outcome := by
  intro reached swapped
  have hpair := runFrom_pair hv hstore hfirst hsecond h index
  have hpair' := runFrom_pair hv hstore hsecond hfirst h.symm index
  have hreached : reached.outcome = .ok (.dict ((env.merge added).merge added')) :=
    hpair.1
  have hswapped : swapped.outcome = .ok (.dict ((env.merge added').merge added)) :=
    hpair'.1
  refine ⟨⟨_, _, hreached, hswapped, Entries.perm_merge_merge henv h.disjoint⟩, ?_⟩
  intro steps last hsteps hlast hafter
  have hagree : Entries.AgreeOn ((steps ++ [last]).flatMap DeclaredStep.names)
      ((env.merge added).merge added') ((env.merge added').merge added) :=
    fun name _ => Entries.find?_merge_merge env h.disjoint (.str name.word)
  obtain ⟨hsame, -⟩ := runFrom_eq_of_agreeOn host hsteps hlast (v := .dict _) (w := .dict _) rfl rfl
    hagree (index + 2)
  rw [outcome_runFrom_append hreached, outcome_runFrom_append hswapped, List.length_cons,
    List.length_singleton, hsame]
  obtain hleft | hsteady := hafter
  · exact congrArg (fun left => (runFrom host (index + 2) _ _ left).outcome) hleft
  · exact (steadyOn_runFrom hsteady (index + 2) _).outcome hpair.2 hpair'.2

end

-- A step that takes a value over under another name.
def copyValue : DeclaredStep :=
  ⟨10, ⟨.intermediate, "copy_value", ["var1"], none,
    .function 10 ⟨"copy_value", [BuiltIn.param "var1"],
      .dict [(.lit (.str "var3"), .var "var1")], none⟩, .none⟩⟩

-- It can stand before or after the step of a smoke pipeline that adds a sum.
theorem runFrom_comm_smoke :
    let env : Value := .dict [(.str "var1", .int 25)]
    let run (steps : List Callable) := (runFrom World.bare.host 1 steps env .start).outcome
    (∃ entries entries' : Entries, run [BuiltIn.addOne, copyValue.callable] = .ok (.dict entries) ∧
      run [copyValue.callable, BuiltIn.addOne] = .ok (.dict entries') ∧ entries.Perm entries') ∧
    run [BuiltIn.addOne, copyValue.callable, BuiltIn.product] =
      run [copyValue.callable, BuiltIn.addOne, BuiltIn.product] := by
  intro env run
  obtain ⟨addOne, haddOne, hnames, hfirst⟩ : ∃ step : DeclaredStep,
      step.callable = BuiltIn.addOne ∧ step.names = ["var1"] ∧
      step.Adds World.bare.host (fun _ => True) [(.str "var1", .int 25)] .start
        [(.str "var2", .int 26)] :=
    ⟨⟨2, _⟩, rfl, rfl, rfl, ⟨fun _ _ => rfl, fun _ => trivial⟩, _, rfl, rfl,
      List.pairwise_singleton ..⟩
  obtain ⟨product, hproduct, hlast⟩ : ∃ step : DeclaredStep,
      step.callable = BuiltIn.product ∧ step.kind = .output := ⟨⟨3, _⟩, rfl, rfl⟩
  have hsecond : copyValue.Adds World.bare.host (fun _ => True) [(.str "var1", .int 25)] .start
      [(.str "var3", .int 25)] :=
    ⟨rfl, ⟨fun _ _ => rfl, fun _ => trivial⟩, _, rfl, rfl, List.pairwise_singleton ..⟩
  have hindependent : addOne.Independent copyValue [(.str "var2", .int 26)]
      [(.str "var3", .int 25)] := by
    refine ⟨by decide, by rw [hnames]; decide, fun key hkey => ?_⟩
    rw [Entries.contains_eq_any] at hkey ⊢
    simp only [Entries.keys, List.map_cons, List.map_nil, List.any_cons, List.any_nil,
      Bool.or_false] at hkey ⊢
    rw [Value.sameKey_comm, ← Value.sameKey_congr hkey]
    decide
  obtain ⟨hentries, hafter⟩ := runFrom_comm rfl (List.pairwise_singleton ..) trivial hfirst hsecond
    hindependent 1 (v := env)
  have hsame := hafter [] product (List.forall_mem_nil _) hlast (.inl ?_)
  · simp only [List.nil_append, callables_cons, List.cons_append, haddOne, hproduct]
      at hentries hsame
    exact ⟨hentries, hsame⟩
  · simp only [callables_cons, haddOne]
    rfl

end StepFlow
