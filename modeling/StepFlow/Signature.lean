import StepFlow.Value.Mapping
import StepFlow.Value.Display

namespace StepFlow

namespace ParamMode

def isPositional : ParamMode → Bool
  | .positionalOnly | .positionalOrKeyword => true
  | _ => false

end ParamMode

namespace Signature

-- The parameters that positional arguments fill one by one.
def positional (sig : Signature) : Signature :=
  sig.filter fun p => p.mode.isPositional

def keywordOnly (sig : Signature) : Signature :=
  sig.filter fun p => p.mode == .keywordOnly

def isVariadic (sig : Signature) : Bool :=
  sig.any fun p => p.mode == .variadic

-- A count of positional arguments fits: enough for every parameter without a default, not more
-- than there is room for, and no keyword-only parameter left without a value.
def Accepts (sig : Signature) (count : Nat) : Prop :=
  (sig.isVariadic ∨ count ≤ sig.positional.length) ∧
    (∀ p ∈ sig.positional.drop count, p.default?.isSome) ∧
    (∀ p ∈ sig.keywordOnly, p.default?.isSome)

-- The first parameter that a count of positional arguments leaves without a value.
def firstMissing? (sig : Signature) (count : Nat) : Option (Param Value) :=
  (sig.positional.drop count ++ sig.keywordOnly).find? fun p => p.default?.isNone

def check (sig : Signature) (count : Nat) : Except Unbound Unit :=
  if !sig.isVariadic && sig.positional.length < count then .error .tooMany
  else
    match sig.firstMissing? count with
    | some p => .error (.missing p.name)
    | none => .ok ()

theorem check_eq_ok_iff (sig : Signature) (count : Nat) :
    sig.check count = .ok () ↔ sig.Accepts count := by
  unfold check Accepts
  by_cases hroom : sig.isVariadic = true ∨ count ≤ sig.positional.length
  · have hnot : (!sig.isVariadic && decide (sig.positional.length < count)) = false := by
      cases hroom with
      | inl h => simp [h]
      | inr h => simp [Nat.not_lt.mpr h]
    rw [if_neg (by simp [hnot])]
    simp only [hroom, true_and]
    cases h : sig.firstMissing? count with
    | none =>
      simp only [firstMissing?, List.find?_eq_none, List.mem_append] at h
      simp only [true_iff]
      constructor
      · intro p hp
        simpa [Option.isSome_iff_ne_none] using h p (.inl hp)
      · intro p hp
        simpa [Option.isSome_iff_ne_none] using h p (.inr hp)
    | some p =>
      have hmem := List.mem_of_find?_eq_some h
      have hnone : p.default?.isNone = true :=
        List.find?_some (p := fun p : Param Value => p.default?.isNone) h
      simp only [reduceCtorEq, false_iff]
      intro hall
      have hsome : p.default?.isSome = true := by
        cases List.mem_append.mp hmem with
        | inl hp => exact hall.1 p hp
        | inr hp => exact hall.2 p hp
      simp [Option.isNone_iff_eq_none.mp hnone] at hsome
  · have : (!sig.isVariadic && decide (sig.positional.length < count)) = true := by
      simp only [not_or, Nat.not_le] at hroom
      simp [hroom.1, hroom.2]
    rw [if_pos this]
    simp [hroom]

-- The names and values that a body sees.
abbrev Scope := List (String × Value)

-- How many positional arguments the function itself says it takes.
def expected (sig : Signature) : Expected :=
  let total := sig.positional.length
  let optional := (sig.positional.filter fun p => p.default?.isSome).length
  if optional = 0 then .exactly total else .between (total - optional) total

def namesWithoutDefault (sig : Signature) : List String :=
  (sig.filter fun p => p.default?.isNone).map (·.name.word)

-- Fills positional parameters in order and the others with their defaults; the variadic
-- parameter collects the arguments that are left over.
def scope (sig : Signature) (args : List Value) : Scope :=
  let fill (p : Param Value) (v? : Option Value) : String × Value :=
    (p.name.word, (v?.orElse fun _ => p.default?).getD .none)
  let positional := sig.positional.zipIdx.map fun (p, i) => fill p args[i]?
  let others := (sig.filter fun p => !p.mode.isPositional).map fun p =>
    match p.mode with
    | .variadic => (p.name.word, .tuple (args.drop sig.positional.length))
    | .keywords => (p.name.word, .dict [])
    | _ => fill p none
  positional ++ others

-- Binds positional arguments as a function of the given name does.
def bind (function : String) (sig : Signature) (args : List Value) : Except Fault Scope :=
  if !sig.isVariadic && sig.positional.length < args.length then
    .error (.arity (.tooMany function sig.expected args.length))
  else
    match namesWithoutDefault (sig.positional.drop args.length),
        namesWithoutDefault sig.keywordOnly with
    | [], [] => .ok (sig.scope args)
    | [], names => .error (.arity (.missingKeywordOnly function names))
    | names, _ => .error (.arity (.missing function names))

-- A parameter that takes one positional argument and has no default.
def plainParam (name : Name) : Param Value :=
  ⟨name, .positionalOnly, none⟩

def variadicParam (name : Name) : Param Value :=
  ⟨name, .variadic, none⟩

end Signature

end StepFlow
