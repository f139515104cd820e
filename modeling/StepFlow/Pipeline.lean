import StepFlow.Call

namespace StepFlow.Pipeline

-- The items of a list that are all callable; the first that is not is named by its index.
def callables (index : Nat) : List Value → Except Fault (List Callable)
  | [] => .ok []
  | v :: vs =>
    match v.callable? with
    | none => do .error (.shape (.stepNotCallable index (← Fault.met v.quotedForm)))
    | some c => (callables (index + 1) vs).map (c :: ·)

-- The first step and the others of a list of steps.
def ofItems (items : List Value) : Except Fault (Callable × List Callable) :=
  match callables 0 items with
  | .error fault => .error fault
  | .ok [] => .error (.shape .noSteps)
  | .ok (first :: rest) => .ok (first, rest)

def ofValue (steps : Value) : Except Fault (Callable × List Callable) :=
  match steps.items? with
  | none => .error (.shape (.stepsNotList steps.typeName))
  | some items => ofItems items

-- Applies the first step to the arguments and folds the others over what it returns.
def runSteps (host : Host) (first : Callable) (rest : List Callable) (args : List Value) :
    Run Value := do
  announceInput first args.length
  let env ← first.call host args
  runFrom host 1 rest env

def run (host : Host) (args steps : Value) : Run Value := do
  let (first, rest) ← ofValue steps
  let items ← runArguments first args
  runSteps host first rest items

-- The name of a composition joins those of its steps.
def joinedName (steps : List Callable) : Except Unmet String :=
  (steps.mapM Callable.displayForm).map (String.intercalate "+")

-- Bundles steps into one callable that takes the raw arguments of the first.
def compose (items : List Value) : Run Callable := do
  let (first, rest) ← ofItems items
  let name ← Fault.met (joinedName (first :: rest))
  Run.identified fun serial => .composed serial name first rest

theorem call_composed (host : Host) (serial : Nat) (name : String) (first : Callable)
    (rest : List Callable) (args : List Value) :
    (Callable.composed serial name first rest).call host args = runSteps host first rest args := by
  simp only [Callable.call, runSteps]

theorem runFrom_nil (host : Host) (index : Nat) (env : Value) :
    runFrom host index [] env = pure env := by
  simp only [runFrom]

theorem runFrom_cons (host : Host) (index : Nat) (step : Callable) (steps : List Callable)
    (env : Value) :
    runFrom host index (step :: steps) env = (do
      announceStep index step
      let next ← step.call host [env.snapshot]
      runFrom host (index + 1) steps next) := by
  simp only [runFrom]

-- Running steps in two parts goes on from what the first part returned.
theorem runFrom_append (host : Host) (index : Nat) (steps more : List Callable) (env : Value) :
    runFrom host index (steps ++ more) env = (do
      let next ← runFrom host index steps env
      runFrom host (index + steps.length) more next) := by
  induction steps generalizing index env with
  | nil => simp [runFrom_nil]
  | cons step steps ih =>
    simp only [List.cons_append, runFrom_cons, Run.bind_assoc, ih, List.length_cons,
      Nat.add_right_comm, Nat.add_assoc]

end StepFlow.Pipeline
