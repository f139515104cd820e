import StepFlow.Fault
import StepFlow.Text.Blank
import StepFlow.Text.Lowercase
import StepFlow.BuiltIn

namespace StepFlow

-- Steps under the normal forms of their names.
structure Registry where
  steps : List (String × Callable)

namespace Registry

-- The form that names are compared in.
def normalForm (name : String) : String :=
  Text.lowercase (Text.strip name)

def empty : Registry :=
  ⟨[]⟩

def find? (r : Registry) (normal : String) : Option Callable :=
  r.steps.lookup normal

-- Replaces the step of a name in its place, or adds the name at the end.
def store (normal : String) (step : Callable) :
    List (String × Callable) → List (String × Callable)
  | [] => [(normal, step)]
  | (name, old) :: rest =>
    if name = normal then (name, step) :: rest else (name, old) :: store normal step rest

-- The form that a value is compared in as a name.
def nameOf (name : Value) : Except Fault String :=
  Fault.met (name.plainForm.map normalForm)

-- Registers a value under a name; only callables can be.
def register (r : Registry) (name step : Value) : Except Fault Registry :=
  match step.callable? with
  | none => do
    .error (.type (.stepNotCallable (← Fault.met name.plainForm)))
  | some c => do return ⟨store (← nameOf name) c r.steps⟩

def resolve (r : Registry) (name : Value) : Except Fault (Option Callable) := do
  return r.find? (← nameOf name)

-- The registered names in order of first registration.
def supportedNames (r : Registry) : List String :=
  r.steps.map Prod.fst

-- The registry of the steps that are always there.
def default : Registry :=
  ⟨[("nop", BuiltIn.nop)]⟩

-- Blanks that were dropped already make no difference.
theorem normalForm_strip (name : String) : normalForm (Text.strip name) = normalForm name := by
  rw [normalForm, normalForm, Text.strip_strip]

-- A text is always a name.
theorem resolve_str (r : Registry) (name : String) :
    r.resolve (.str name) = .ok (r.find? (normalForm name)) := rfl

-- After a name is stored it is found with the new step, and every other name as before.
theorem lookup_store (steps : List (String × Callable)) (normal other : String)
    (step : Callable) :
    (store normal step steps).lookup other =
      if other = normal then some step else steps.lookup other := by
  induction steps with
  | nil =>
    by_cases h : other = normal
    · simp [store, h]
    · simp [store, List.lookup_cons, h, beq_eq_false_iff_ne.mpr h]
  | cons entry rest ih =>
    obtain ⟨name, old⟩ := entry
    by_cases hn : name = normal
    · subst hn
      by_cases h : other = name
      · simp [store, h]
      · simp [store, List.lookup_cons, h, beq_eq_false_iff_ne.mpr h]
    · by_cases h : other = name
      · subst h
        simp [store, hn]
      · simp only [store, hn, if_false, List.lookup_cons, beq_eq_false_iff_ne.mpr h, ih]

-- Storing keeps the names and their order; only a name that is not there yet is added.
theorem map_fst_store (steps : List (String × Callable)) (normal : String) (step : Callable) :
    (store normal step steps).map Prod.fst =
      if normal ∈ steps.map Prod.fst then steps.map Prod.fst
      else steps.map Prod.fst ++ [normal] := by
  induction steps with
  | nil => simp [store]
  | cons entry rest ih =>
    obtain ⟨name, old⟩ := entry
    by_cases hn : name = normal
    · simp [store, hn]
    · by_cases hm : normal ∈ rest.map Prod.fst
      · simp_all [store]
      · simp_all [store, Ne.symm hn]

end Registry

end StepFlow
