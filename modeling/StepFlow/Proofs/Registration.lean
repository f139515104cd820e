import StepFlow.Registry
import Mathlib.Data.List.Induction

namespace StepFlow.Registry

-- A registry after one more call to register a step under a name. A failing call changes nothing.
def enter (r : Registry) (call : Value × Value) : Registry :=
  match r.register call.1 call.2 with
  | .ok entered => entered
  | .error _ => r

-- The registry that calls make of an empty one.
def ofCalls (calls : List (Value × Value)) : Registry :=
  calls.foldl enter empty

-- What a call registers under which normal form, if it does not fail.
def registers? (call : Value × Value) : Option (String × Callable) :=
  match call.2.callable?, nameOf call.1 with
  | some c, .ok normal => some (normal, c)
  | _, _ => none

-- The step of the last call that registered one under a normal form.
def latest? (calls : List (Value × Value)) (normal : String) : Option Callable :=
  (calls.filterMap registers?).reverse.lookup normal

theorem steps_enter (r : Registry) (call : Value × Value) :
    (r.enter call).steps =
      match registers? call with
      | some (normal, c) => store normal c r.steps
      | none => r.steps := by
  obtain ⟨name, step⟩ := call
  simp only [enter, register, registers?]
  cases step.callable? with
  | none => cases Fault.met name.plainForm <;> rfl
  | some c => cases nameOf name <;> rfl

-- What is found after one more call is its own step, or what was found before.
theorem find?_enter (r : Registry) (call : Value × Value) (normal : String) :
    (r.enter call).find? normal = ((registers? call).toList.lookup normal).or (r.find? normal) := by
  rw [find?, steps_enter]
  cases h : registers? call with
  | none => rfl
  | some entry =>
      obtain ⟨name, c⟩ := entry
      rw [lookup_store, Option.toList_some, List.lookup_cons, List.lookup_nil, find?]
      by_cases hname : normal = name
      · simp [hname]
      · simp [hname, beq_eq_false_iff_ne.mpr hname]

theorem latest?_concat (calls : List (Value × Value)) (call : Value × Value) (normal : String) :
    latest? (calls ++ [call]) normal =
      ((registers? call).toList.lookup normal).or (latest? calls normal) := by
  rw [latest?, List.filterMap_append, List.reverse_append, List.lookup_append, latest?]
  cases h : registers? call <;> simp [h]

-- A registry answers with the last call that registered a step under a name.
theorem find?_ofCalls (calls : List (Value × Value)) (normal : String) :
    (ofCalls calls).find? normal = latest? calls normal := by
  induction calls using List.reverseRecOn with
  | nil => rfl
  | append_singleton calls call ih =>
      rw [ofCalls, List.foldl_append, List.foldl_cons, List.foldl_nil, find?_enter, latest?_concat,
        ← ih, ofCalls]

theorem latest?_isSome_iff (calls : List (Value × Value)) (normal : String) :
    (latest? calls normal).isSome = true ↔
      ∃ call ∈ calls, ∃ c, registers? call = some (normal, c) := by
  rw [latest?, List.lookup_isSome_iff]
  constructor
  · rintro ⟨⟨name, c⟩, hentry, hname⟩
    obtain rfl := eq_of_beq hname
    obtain ⟨call, hcall, hsome⟩ := List.mem_filterMap.mp (List.mem_reverse.mp hentry)
    exact ⟨call, hcall, c, hsome⟩
  · rintro ⟨call, hcall, c, hsome⟩
    exact ⟨(normal, c), List.mem_reverse.mpr (List.mem_filterMap.mpr ⟨call, hcall, hsome⟩),
      beq_self_eq_true normal⟩

end StepFlow.Registry
