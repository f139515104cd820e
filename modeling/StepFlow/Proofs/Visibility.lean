import StepFlow.Native.Host
import StepFlow.Proofs.BodyCalls
import StepFlow.Proofs.Mapping
import StepFlow.Proofs.Paired

namespace StepFlow

-- Both environments have each name with one value, or neither has it.
def Entries.AgreeOn (names : List Name) (env other : Entries) : Prop :=
  ∀ name ∈ names, env.get? name.word = other.get? name.word

theorem Entries.AgreeOn.mono {names fewer : List Name} {env other : Entries}
    (h : AgreeOn names env other) (hsub : fewer ⊆ names) : AgreeOn fewer env other :=
  fun name hname => h name (hsub hname)

theorem Entries.AgreeOn.merge {names : List Name} {env other : Entries}
    (h : AgreeOn names env other) (added : Entries) :
    AgreeOn names (env.merge added) (other.merge added) := by
  intro name hname
  have hbefore := h name hname
  simp only [get?, find?_merge] at hbefore ⊢
  rw [hbefore]

-- Two mappings that agree on names.
def Value.AgreeOn (names : List Name) (v w : Value) : Prop :=
  ∃ env other : Entries, v.entries? = some env ∧ w.entries? = some other ∧
    Entries.AgreeOn names env other

theorem Value.AgreeOn.snapshot {names : List Name} {v w : Value} (h : AgreeOn names v w) :
    AgreeOn names v.snapshot w.snapshot := by
  obtain ⟨env, other, hv, hw, hagree⟩ := h
  exact ⟨env, other, v.entries?_snapshot.trans hv, w.entries?_snapshot.trans hw, hagree⟩

namespace DeclaredStep

variable {host : Host} {step : DeclaredStep} {names : List Name} {v w : Value}

theorem operands_eq_of_agreeOn {env other : Entries}
    (h : Entries.AgreeOn step.names env other) : step.operands env = step.operands other := by
  apply List.ext_getElem?
  intro j
  rw [getElem?_operands, getElem?_operands]
  cases hname : step.names[j]? with
  | none => rfl
  | some name => rw [Option.map_some, Option.map_some, h name (List.mem_of_getElem? hname)]

-- An intermediate step that reads some of the names keeps the agreement on all of them.
theorem paired_call_intermediate (hkind : step.kind = .intermediate) (hnames : step.names ⊆ names)
    (h : Value.AgreeOn names v w) :
    Run.Paired (Value.AgreeOn names) (step.callable.call host [v])
      (step.callable.call host [w]) := by
  obtain ⟨env, other, hv, hw, hagree⟩ := h
  rw [call_intermediate hkind hv, call_intermediate hkind hw,
    operands_eq_of_agreeOn (hagree.mono hnames)]
  apply (Run.Paired.refl _).bind
  rintro returned _ rfl
  cases returned.entries? with
  | none => exact fun _ => ⟨rfl, rfl, rfl⟩
  | some added => exact .pure ⟨_, _, rfl, rfl, hagree.merge added⟩

theorem call_output_eq_of_agreeOn (host : Host) (hkind : step.kind = .output)
    (hnames : step.names ⊆ names) (h : Value.AgreeOn names v w) :
    step.callable.call host [v] = step.callable.call host [w] := by
  obtain ⟨env, other, hv, hw, hagree⟩ := h
  rw [call_output hkind hv, call_output hkind hw, operands_eq_of_agreeOn (hagree.mono hnames)]

end DeclaredStep

-- Intermediate steps keep the agreement on names that include theirs.
theorem paired_runFrom (host : Host) {steps : List DeclaredStep}
    (hsteps : ∀ step ∈ steps, step.kind = .intermediate) {names : List Name}
    (hnames : steps.flatMap DeclaredStep.names ⊆ names) {v w : Value}
    (h : Value.AgreeOn names v w) (index : Nat) :
    Run.Paired (Value.AgreeOn names) (runFrom host index (callables steps) v)
      (runFrom host index (callables steps) w) := by
  induction steps generalizing v w index with
  | nil =>
      rw [callables, List.map_nil, Pipeline.runFrom_nil, Pipeline.runFrom_nil]
      exact .pure h
  | cons step steps ih =>
      rw [List.flatMap_cons, List.append_subset] at hnames
      have hkind : step.kind = .intermediate := hsteps step (by simp)
      have hrest : ∀ s ∈ steps, s.kind = .intermediate :=
        fun s hs => hsteps s (List.mem_cons_of_mem _ hs)
      rw [callables_cons, Pipeline.runFrom_cons, Pipeline.runFrom_cons]
      apply (Run.Paired.refl _).bind
      rintro _ _ -
      apply (DeclaredStep.paired_call_intermediate hkind hnames.1 h.snapshot).bind
      exact fun next next' hnext => ih hrest hnames.2 hnext (index + 1)

-- Intermediate steps and an output step come to the same after two mappings that agree, in
-- presence and in value, on the names that one of them declares: the runs are equal in outcome,
-- events and store, and the first steps of them, as many as one likes, fail on both with one fault
-- or on neither, so that it is one step that fails.
theorem runFrom_eq_of_agreeOn (host : Host) {steps : List DeclaredStep}
    (hsteps : ∀ step ∈ steps, step.kind = .intermediate) {last : DeclaredStep}
    (hlast : last.kind = .output) {v w : Value} {env other : Entries}
    (hv : v.entries? = some env) (hw : w.entries? = some other)
    (hagree : Entries.AgreeOn ((steps ++ [last]).flatMap DeclaredStep.names) env other)
    (index : Nat) :
    runFrom host index (callables (steps ++ [last])) v =
        runFrom host index (callables (steps ++ [last])) w ∧
      ∀ (count : Nat) (store : Store) (fault : Fault),
        (runFrom host index (callables ((steps ++ [last]).take count)) v store).outcome =
            .error fault ↔
          (runFrom host index (callables ((steps ++ [last]).take count)) w store).outcome =
            .error fault := by
  have hall : (steps ++ [last]).flatMap DeclaredStep.names =
      steps.flatMap DeclaredStep.names ++ last.names := by simp
  rw [hall] at hagree
  have h : Value.AgreeOn (steps.flatMap DeclaredStep.names ++ last.names) v w :=
    ⟨env, other, hv, hw, hagree⟩
  have hwhole : runFrom host index (callables (steps ++ [last])) v =
      runFrom host index (callables (steps ++ [last])) w := by
    rw [callables, List.map_append, Pipeline.runFrom_append, Pipeline.runFrom_append]
    apply Run.Paired.eq
    apply (paired_runFrom host hsteps (List.subset_append_left ..) h index).bind
    intro next next' hnext
    have hcall := DeclaredStep.call_output_eq_of_agreeOn host hlast
      (List.subset_append_right ..) hnext.snapshot
    rw [List.map_singleton, Pipeline.runFrom_cons, Pipeline.runFrom_cons, hcall]
    exact .refl _
  refine ⟨hwhole, fun count store fault => ?_⟩
  by_cases hcount : count ≤ steps.length
  · rw [List.take_append_of_le_length hcount]
    have hsteps' : ∀ step ∈ steps.take count, step.kind = .intermediate :=
      fun step hstep => hsteps step (List.mem_of_mem_take hstep)
    have hnames : (steps.take count).flatMap DeclaredStep.names ⊆
        steps.flatMap DeclaredStep.names ++ last.names := by
      intro name hname
      obtain ⟨step, hstep, hmem⟩ := List.mem_flatMap.mp hname
      exact List.mem_append_left _ (List.mem_flatMap.mpr ⟨step, List.mem_of_mem_take hstep, hmem⟩)
    exact (paired_runFrom host hsteps' hnames h index store).2.2.error_iff fault
  · rw [List.take_of_length_le (by simp; omega), hwhole]

-- The later steps of a smoke pipeline do not see entries of other names.
theorem runFrom_smoke_eq :
    runFrom World.bare.host 1 [BuiltIn.addOne, BuiltIn.product]
        (.dict [(.str "var1", .int 25), (.str "other", .none)]) =
      runFrom World.bare.host 1 [BuiltIn.addOne, BuiltIn.product]
        (.view 0 [(.int 7, .int 8), (.str "var1", .int 25)]) := by
  obtain ⟨addOne, haddOne, hkind, hnames⟩ : ∃ step : DeclaredStep,
      step.callable = BuiltIn.addOne ∧ step.kind = .intermediate ∧ step.names = [.text "var1"] :=
    ⟨⟨2, _⟩, rfl, rfl, rfl⟩
  obtain ⟨product, hproduct, hlast, hlastNames⟩ : ∃ step : DeclaredStep,
      step.callable = BuiltIn.product ∧ step.kind = .output ∧
        step.names = [.text "var1", .text "var2"] :=
    ⟨⟨3, _⟩, rfl, rfl, rfl⟩
  have hagree : Entries.AgreeOn (([addOne] ++ [product]).flatMap DeclaredStep.names)
      [(.str "var1", .int 25), (.str "other", .none)]
      [(.int 7, .int 8), (.str "var1", .int 25)] := by
    intro name hname
    simp only [List.singleton_append, List.flatMap_cons, List.flatMap_nil, hnames, hlastNames,
      List.append_nil, List.mem_cons, List.not_mem_nil, or_false] at hname
    obtain rfl | rfl | rfl := hname <;> rfl
  have hsteps : ∀ step ∈ [addOne], step.kind = .intermediate := by
    intro step hstep
    rwa [List.mem_singleton.mp hstep]
  have hv : (Value.dict [(.str "var1", .int 25), (.str "other", .none)]).entries? =
    some [(.str "var1", .int 25), (.str "other", .none)] := rfl
  have hw : (Value.view 0 [(.int 7, .int 8), (.str "var1", .int 25)]).entries? =
    some [(.int 7, .int 8), (.str "var1", .int 25)] := rfl
  obtain ⟨hsame, -⟩ := runFrom_eq_of_agreeOn World.bare.host hsteps hlast hv hw hagree 1
  rw [← haddOne, ← hproduct]
  exact hsame

end StepFlow
