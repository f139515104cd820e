import StepFlow.Run

namespace StepFlow.Run

variable {σ : Type}

-- The next item of a generator, which is then gone. Asking for one more than there are ends it.
def next? (serial : Nat) : Run (Option Value) := do
  match ← left serial with
  | [] => do
    finish serial
    return none
  | v :: vs => do
    leave serial vs
    return some v

-- Folds over what a generator yields. As a generator never gains items, the number it has left
-- bounds the fold.
def foldGenerator (serial : Nat) (step : σ → Value → Run σ) : Nat → σ → Run σ
  | 0, state => do
    finish serial
    return state
  | count + 1, state => do
    match ← next? serial with
    | none => return state
    | some v => do foldGenerator serial step count (← step state v)

-- Folds over the items of a value until they end or a step fails.
def foldItems (v : Value) (step : σ → Value → Run σ) (start : σ) : Run σ :=
  match v with
  | .generator serial => do foldGenerator serial step (← left serial).length start
  | v =>
    match v.iterate? with
    | some items => items.foldlM step start
    | none => fail (.type (.notIterable v.operandType))

-- What a function makes of the items of a value, in their order.
def mapItems {α : Type} (v : Value) (f : Value → Run α) : Run (List α) := do
  let made ← foldItems v (fun (made : List α) item => do return (← f item) :: made) []
  return made.reverse

-- Whether a value has items to go through.
def isIterable (v : Value) : Bool :=
  v matches .generator _ || v.iterate?.isSome

-- All items of a value.
def itemsOf (v : Value) : Run (List Value) :=
  match v with
  | .generator serial => do
    let items ← left serial
    finish serial
    return items
  | v =>
    match v.iterate? with
    | some items => return items
    | none => fail (.type (.notIterable v.operandType))

-- Searches what a generator yields, bounded like a fold.
def anyGenerator (serial : Nat) (test : Value → Run Bool) : Nat → Run Bool
  | 0 => do
    finish serial
    return false
  | count + 1 => do
    match ← next? serial with
    | none => return false
    | some v => do
      if ← test v then return true else anyGenerator serial test count

-- Searches the items of a value up to the first that passes a test.
def anyItem (v : Value) (test : Value → Run Bool) : Run Bool :=
  match v with
  | .generator serial => do anyGenerator serial test (← left serial).length
  | v =>
    match v.iterate? with
    | some items => items.anyM test
    | none => fail (.type (.notIterable v.operandType))

-- Whether a value is part of a container. A generator is searched like any items.
def isIn (needle container : Value) : Run Bool :=
  match container with
  | .generator _ => anyItem container fun item => return item.sameKey needle
  | container => lift (needle.isIn container)

end StepFlow.Run
