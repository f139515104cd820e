import StepFlow.Proofs.Quiet

namespace StepFlow

theorem Value.entries?_snapshot (v : Value) : v.snapshot.entries? = v.entries? := by
  cases v <;> rfl

theorem Value.snapshot_of_entries?_eq_none {v : Value} (h : v.entries? = Option.none) :
    v.snapshot = v := by
  cases v <;> first | rfl | cases h

-- A step of the contract layer: a declaration with an identity.
structure DeclaredStep where
  serial : Nat
  declaration : Declaration Value Callable

namespace DeclaredStep

variable {host : Host} {step : DeclaredStep} {v : Value} {env : Entries}

def callable (step : DeclaredStep) : Callable :=
  .step step.serial step.declaration

theorem isNamed_callable (step : DeclaredStep) : step.callable.IsNamed :=
  Callable.isNamed_step step.serial step.declaration

-- A declared step of a run is always called.
theorem called_callable (step : DeclaredStep) (host : Host) (args : List Value) :
    Pipeline.called host step.callable args = (step.callable.call host args).quiet :=
  Pipeline.called_of_isNamed step.isNamed_callable host args

def kind (step : DeclaredStep) : StepKind :=
  step.declaration.kind

def name (step : DeclaredStep) : Name :=
  step.declaration.name

-- The names that a step reads.
def names (step : DeclaredStep) : List Name :=
  step.declaration.fixed

def body (step : DeclaredStep) : Callable :=
  step.declaration.body

-- The defaults of the body, one for each name as far as there are parameters.
def defaults (step : DeclaredStep) : List (Option Value) :=
  Declaration.bodyDefaults step.body step.names.length

-- What the body of a step that reads the environment is called with.
def operands (step : DeclaredStep) (env : Entries) : List Value :=
  Declaration.bindNames env step.names step.defaults

-- The fault of a step that is handed no mapping.
def expectsEnvironment (step : DeclaredStep) (v : Value) : Fault :=
  .contract .expectsEnvironment step.kind (.ofName step.name) v.typeName

-- The fault of a step whose body returns no mapping.
def returnsNoEnvironment (step : DeclaredStep) (v : Value) : Fault :=
  .contract .returnsNoEnvironment step.kind (.ofName step.name) v.typeName

-- The fault of an input step that is called with a number of arguments that it does not take.
def refusesCount (step : DeclaredStep) (count : Nat) : Fault :=
  .arity (.inputStep step.name.plain step.declaration.expected count)

theorem environmentArgument_singleton (kind : StepKind) (name : Name) (v : Value) :
    Declaration.environmentArgument kind name [v] =
      match v.entries? with
      | some entries => .ok entries
      | none => .error (.contract .expectsEnvironment kind (.ofName name) v.typeName) := rfl

-- Anything but one argument is a fault of its own.
theorem environmentArgument_of_length_ne_one (kind : StepKind) (name : Name) {args : List Value}
    (h : args.length ≠ 1) :
    ∃ fault, Declaration.environmentArgument kind name args = .error fault := by
  match args with
  | [] => exact ⟨_, rfl⟩
  | [_] => exact absurd rfl h
  | _ :: _ :: _ => exact ⟨_, rfl⟩

-- An input step hands on the mapping that its body returns.
theorem call_input (hkind : step.kind = .input) (args : List Value) :
    step.callable.call host args =
      if step.declaration.takes args.length then
        step.body.call host args >>= fun returned =>
          if returned.entries?.isSome then pure returned
          else Run.fail (step.returnsNoEnvironment returned)
      else Run.fail (step.refusesCount args.length) := by
  obtain ⟨serial, kind, name, fixed, rest?, body, doc⟩ := step
  cases hkind
  simp only [callable, Callable.call]
  congr 2
  funext returned
  simp only [Declaration.returnedEntries]
  cases returned.entries? <;> rfl

-- An intermediate step merges the mapping that its body returns over the environment.
theorem call_intermediate (hkind : step.kind = .intermediate) (hv : v.entries? = some env) :
    step.callable.call host [v] =
      step.body.call host (step.operands env) >>= fun returned =>
        match returned.entries? with
        | some added => pure (.dict (env.merge added))
        | none => Run.fail (step.returnsNoEnvironment returned) := by
  obtain ⟨serial, kind, name, fixed, rest?, body, doc⟩ := step
  cases hkind
  simp only [callable, Callable.call, environmentArgument_singleton, hv]
  change (body.call host _ >>= _) = (body.call host _ >>= _)
  congr 1
  funext returned
  simp only [Declaration.returnedEntries]
  cases returned.entries? <;> rfl

-- An output step returns what its body returns.
theorem call_output (hkind : step.kind = .output) (hv : v.entries? = some env) :
    step.callable.call host [v] = step.body.call host (step.operands env) := by
  obtain ⟨serial, kind, name, fixed, rest?, body, doc⟩ := step
  cases hkind
  simp only [callable, Callable.call, environmentArgument_singleton, hv]
  rfl

-- A value without entries is refused before the body is called.
theorem call_of_entries?_eq_none (hkind : step.kind ≠ .input) (hv : v.entries? = none) :
    step.callable.call host [v] = Run.fail (step.expectsEnvironment v) := by
  obtain ⟨serial, kind, name, fixed, rest?, body, doc⟩ := step
  cases kind with
  | input => exact absurd rfl hkind
  | intermediate =>
      simp only [callable, Callable.call, environmentArgument_singleton, hv]
      rfl
  | output =>
      simp only [callable, Callable.call, environmentArgument_singleton, hv]
      rfl

-- A step that reads the environment takes one argument.
theorem call_of_length_ne_one (hkind : step.kind ≠ .input) {args : List Value}
    (hargs : args.length ≠ 1) : ∃ fault, step.callable.call host args = Run.fail fault := by
  obtain ⟨serial, kind, name, fixed, rest?, body, doc⟩ := step
  obtain ⟨fault, hfault⟩ := environmentArgument_of_length_ne_one kind name hargs
  cases kind with
  | input => exact absurd rfl hkind
  | intermediate =>
      simp only [callable, Callable.call, hfault]
      exact ⟨fault, rfl⟩
  | output =>
      simp only [callable, Callable.call, hfault]
      exact ⟨fault, rfl⟩

-- Values with the same entries are one to a step that reads the environment.
theorem call_congr (hkind : step.kind ≠ .input) {w : Value} (hv : v.entries? = some env)
    (hw : w.entries? = some env) : step.callable.call host [v] = step.callable.call host [w] := by
  cases h : step.kind with
  | input => exact absurd h hkind
  | intermediate => rw [call_intermediate h hv, call_intermediate h hw]
  | output => rw [call_output h hv, call_output h hw]

-- The value that a name is bound to: that of the environment if it has the name, else the default
-- of the body at this place, else nothing.
theorem getElem?_operands (step : DeclaredStep) (env : Entries) (j : Nat) :
    (step.operands env)[j]? = step.names[j]?.map fun name =>
      ((env.get? name.word).or step.defaults[j]?.join).getD .none := by
  rw [operands]
  generalize step.names = names
  generalize step.defaults = defaults
  induction names generalizing defaults j with
  | nil => rfl
  | cons name names ih =>
      rw [Declaration.bindNames]
      cases j with
      | zero =>
          rw [List.getElem?_cons_zero, List.getElem?_cons_zero, Option.map_some]
          cases env.get? name.word <;> cases defaults <;> rfl
      | succ j =>
          rw [List.getElem?_cons_succ, List.getElem?_cons_succ, ih]
          cases defaults <;> rfl

end DeclaredStep

end StepFlow
