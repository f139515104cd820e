import StepFlow.Native.Host
import StepFlow.Proofs.Composition
import StepFlow.Proofs.Contract
import Mathlib.Data.List.Forall2

namespace StepFlow

open Pipeline (run stepList chain)

-- A step that reads the environment is handed a value and its view alike.
theorem DeclaredStep.call_snapshot {step : DeclaredStep} (hkind : step.kind ≠ .input) (host : Host)
    (v : Value) : step.callable.call host [v.snapshot] = step.callable.call host [v] := by
  cases hv : v.entries? with
  | none => rw [Value.snapshot_of_entries?_eq_none hv]
  | some env => exact step.call_congr hkind (v.entries?_snapshot.trans hv) hv

-- Steps of which the first is a declared one that reads the environment.
def StartsReading (steps : List Callable) : Prop :=
  ∃ (step : DeclaredStep) (rest : List Callable),
    step.kind ≠ .input ∧ steps = step.callable :: rest

-- A run of one value through such steps.
def fork (host : Host) (v : Value) (steps : List Callable) : Run Value :=
  run host (.list [v]) (stepList steps)

-- As raw argument of such steps a value comes to what it comes to as the value before them.
theorem quiet_fork (host : Host) {steps : List Callable} (hsteps : StartsReading steps) (v : Value)
    (index : Nat) : (fork host v steps).quiet = (runFrom host index steps v).quiet := by
  obtain ⟨step, rest, hkind, rfl⟩ := hsteps
  have hne : step.callable :: rest ≠ [] := List.cons_ne_nil _ _
  have hitems : (Value.list [v]).items? = some [v] := rfl
  calc
    (fork host v (step.callable :: rest)).quiet
      = chain host (step.callable :: rest) [v] := Pipeline.quiet_run_stepList host hitems _
    _ = chain host (step.callable :: rest) [v.snapshot] := by
      rw [chain, chain, step.called_callable, step.called_callable, step.call_snapshot hkind]
    _ = (runFrom host index (step.callable :: rest) v).quiet := by
      rw [Pipeline.quiet_runFrom, Pipeline.foldlM_advance_eq_chain hne]

theorem endsAs_run_fork (host : Host) {args : Value} {items : List Value}
    (hargs : args.items? = some items) {steps : List Callable} (hne : steps ≠ []) {store : Store}
    {v : Value} (h : (run host args (stepList steps) store).outcome = .ok v)
    {more : List Callable} (hmore : StartsReading more) :
    (run host args (stepList (steps ++ more)) store).EndsAs
      (run host args (stepList steps) store).notes
      (fork host v more (run host args (stepList steps) store).store) := by
  have hwhole := Pipeline.endsAs_run_append host hargs hne more h 0
  have hfork : (runFrom host 0 more v (run host args (stepList steps) store).store).EndsAs []
      (fork host v more (run host args (stepList steps) store).store) :=
    Reached.endsAs_nil_of_quiet_eq (congrFun (quiet_fork host hmore v 0).symm _)
  have hends := hwhole.trans hfork
  rwa [List.append_nil] at hends

-- Forks of one value, one after the other.
def forks (host : Host) (v : Value) : List (List Callable) → Store → List (Reached Value)
  | [], _ => []
  | steps :: others, store =>
    let reached := fork host v steps store
    reached :: forks host v others reached.store

-- As long as forks leave the store as they find it, all of them start from the same one.
theorem forks_eq_map (host : Host) (v : Value) (suffixes : List (List Callable)) (store : Store)
    (h : ∀ reached ∈ (forks host v suffixes store).dropLast, reached.store = store) :
    forks host v suffixes store = suffixes.map fun steps => fork host v steps store := by
  induction suffixes with
  | nil => rfl
  | cons steps others ih =>
      rw [forks, List.map_cons]
      cases others with
      | nil => rfl
      | cons steps' others =>
          rw [forks, forks, List.dropLast_cons_cons] at h
          have hfirst : (fork host v steps store).store = store := h _ (List.mem_cons_self ..)
          rw [hfirst] at h ⊢
          rw [ih fun reached hreached => h reached (List.mem_cons_of_mem _ hreached)]

-- A pipeline that is cut in front of a declared step that reads the environment. If its first steps
-- fail, it fails alike. If they return a value, each fork of this value comes to what the whole
-- pipeline comes to, which has the notes of the first steps in front of those of the fork. Several
-- forks one after the other all do so as long as those before leave the store as they find it.
theorem run_forks (host : Host) {args : Value} {items : List Value}
    (hargs : args.items? = some items) {steps : List Callable} (hne : steps ≠ []) (store : Store) :
    let whole (more : List Callable) := run host args (stepList (steps ++ more)) store
    let first := run host args (stepList steps) store
    (∀ fault, first.outcome = .error fault → ∀ more, (whole more).outcome = .error fault ∧
      (whole more).notes = first.notes) ∧
    (∀ v, first.outcome = .ok v →
      (∀ more, StartsReading more →
        (whole more).EndsAs first.notes (fork host v more first.store)) ∧
      ∀ suffixes, (∀ more ∈ suffixes, StartsReading more) →
        (∀ reached ∈ (forks host v suffixes first.store).dropLast, reached.store = first.store) →
        List.Forall₂ (fun more reached => (whole more).EndsAs first.notes reached) suffixes
          (forks host v suffixes first.store)) := by
  intro whole first
  constructor
  · intro fault hfault more
    have hends := Pipeline.endsAs_run_append_of_error host hargs hne more hfault
    exact ⟨hends.outcome.trans hfault, hends.notes⟩
  · intro v hv
    have hfork : ∀ more, StartsReading more →
        (whole more).EndsAs first.notes (fork host v more first.store) :=
      fun more hmore => endsAs_run_fork host hargs hne hv hmore
    refine ⟨hfork, fun suffixes hsuffixes hstores => ?_⟩
    rw [forks_eq_map host v suffixes first.store hstores, List.forall₂_map_right_iff,
      List.forall₂_same]
    exact fun more hmore => hfork more (hsuffixes more hmore)

-- Two forks of the first steps of a smoke pipeline, one after the other.
theorem run_forks_smoke :
    let steps := [BuiltIn.loadValue, BuiltIn.addOne]
    let whole (more : List Callable) :=
      run World.bare.host (.list [.int 25]) (stepList (steps ++ more)) .start
    let first := run World.bare.host (.list [.int 25]) (stepList steps) .start
    ∃ v, first.outcome = .ok v ∧
      (forks World.bare.host v [[BuiltIn.product], [BuiltIn.nop, BuiltIn.product]]
        first.store).map Reached.outcome = [.ok (.int 650), .ok (.int 650)] ∧
      (whole [BuiltIn.product]).outcome = .ok (.int 650) ∧
      (whole [BuiltIn.nop, BuiltIn.product]).outcome = .ok (.int 650) := by
  intro steps whole first
  have hproduct : StartsReading [BuiltIn.product] := ⟨⟨3, _⟩, [], by decide, rfl⟩
  have hnop : StartsReading [BuiltIn.nop, BuiltIn.product] :=
    ⟨⟨0, _⟩, [BuiltIn.product], by decide, rfl⟩
  have hv : first.outcome = .ok (.dict [(.str "var1", .int 25), (.str "var2", .int 26)]) := rfl
  have hargs : (Value.list [.int 25]).items? = some [.int 25] := rfl
  obtain ⟨-, hforks⟩ :=
    run_forks World.bare.host hargs (List.cons_ne_nil BuiltIn.loadValue [BuiltIn.addOne]) .start
  obtain ⟨-, hall⟩ := hforks _ hv
  have hends := hall [[BuiltIn.product], [BuiltIn.nop, BuiltIn.product]]
    (by simp [hproduct, hnop]) (by rintro reached (_ | ⟨_, ⟨⟩⟩); rfl)
  obtain ⟨hfirst, hrest⟩ := List.forall₂_cons.mp hends
  obtain ⟨hsecond, -⟩ := List.forall₂_cons.mp hrest
  exact ⟨_, hv, rfl, hfirst.outcome, hsecond.outcome⟩

-- Steps that make pairs that can be gone through once, and a step that goes through them.
def makePairs : Callable :=
  .function 10 ⟨"make", [],
    .dict [(.lit (.str "pairs"), .generator [.tuple [.lit (.str "x"), .lit .none]])], none⟩

def takePairs : DeclaredStep :=
  ⟨11, ⟨.output, "take", ["pairs"], none,
    .function 11 ⟨"take", [BuiltIn.param "pairs"],
      .call (.lit (.callable (.native .partialEnv))) [.var "pairs"], none⟩, .none⟩⟩

-- A fork that changes what the value holds changes what the next fork of it comes to, while the
-- whole pipeline makes the value anew.
theorem forks_distinguished :
    let whole := run World.bare.host (.list []) (stepList [makePairs, takePairs.callable])
    let first := run World.bare.host (.list []) (stepList [makePairs]) .start
    let reached := fork World.bare.host (.dict [(.str "pairs", .generator 100)])
      [takePairs.callable] first.store
    first.outcome = .ok (.dict [(.str "pairs", .generator 100)]) ∧
      StartsReading [takePairs.callable] ∧
      (whole .start).outcome = .ok (.dict [(.str "x", .none)]) ∧
      (whole reached.store).outcome = .ok (.dict [(.str "x", .none)]) ∧
      (forks World.bare.host (.dict [(.str "pairs", .generator 100)])
        [[takePairs.callable], [takePairs.callable]] first.store).map Reached.outcome =
        [.ok (.dict [(.str "x", .none)]), .ok (.dict [])] := by
  refine ⟨rfl, ⟨takePairs, [], by simp [takePairs, DeclaredStep.kind], rfl⟩, rfl, rfl, rfl⟩

end StepFlow
