import StepFlow.Value.Sequence
import StepFlow.Numeric.RatioText
import StepFlow.Path

namespace StepFlow

open StepFlow.Numeric

-- A value as a number, the truth values as 0 and 1.
inductive Number where
  | int (n : Int)
  | ratio (q : Rat)
  | float (x : Float)

def Value.number? : Value → Option Number
  | .bool b => some (.int (if b then 1 else 0))
  | .int n => some (.int n)
  | .ratio q => some (.ratio q)
  | .float x => some (.float x)
  | .nan _ => some (.float (0 / 0))
  | _ => Option.none

-- Two numbers brought to their common type.
inductive Meeting where
  | ints (a b : Int)
  | ratios (a b : Rat)
  | floats (a b : Float)

-- The double nearest to a number that has to be one.
def Number.toFloat : Number → Except Fault Float
  | .int n =>
    match nearest? n with
    | some x => .ok x
    | none => .error (.tooLarge .toFloat)
  | .ratio q =>
    match nearest? q with
    | some x => .ok x
    | none => .error (.tooLarge .quotient)
  | .float x => .ok x

def Number.meet : Number → Number → Except Fault Meeting
  | .int a, .int b => .ok (.ints a b)
  | .int a, .ratio b => .ok (.ratios a b)
  | .ratio a, .int b => .ok (.ratios a b)
  | .ratio a, .ratio b => .ok (.ratios a b)
  | a, b => do
    let x ← a.toFloat
    let y ← b.toFloat
    return .floats x y

-- The remainder of `x / y` with the sign of `x`, exactly.
def floatRemainder (x y : Float) : Float :=
  match exactValue? x, exactValue? y with
  | some a, some b =>
    if b = 0 then 0 / 0
    else
      let quotient := a / b
      let whole : Int := if quotient < 0 then quotient.ceil else quotient.floor
      match nearest? (a - whole * b) with
      | some r => if r == 0 then (if isNegative x then -0.0 else 0.0) else r
      | none => 0 / 0
  | some _, none => if isNan y then y else x
  | none, _ => 0 / 0

-- The floor of `x / y` computed from the exact remainder.
def floatFloorDiv (x y : Float) : Float :=
  let r := floatRemainder x y
  let quotient := (x - r) / y
  let quotient := if r != 0 && (y < 0) != (r < 0) then quotient - 1 else quotient
  if quotient != 0 then
    let floor := quotient.floor
    if quotient - floor > 0.5 then floor + 1 else floor
  else if isNegative (x / y) then -0.0 else 0.0

-- The sign of a numerator over zero, in lowest terms.
def signOf (q : Rat) : Int :=
  if q < 0 then -1 else if 0 < q then 1 else 0

-- That a numerator is over zero, as far as it can be shown.
def overZero (n : Int) : Fault :=
  if longNumber ≤ n.natAbs then .unmet .longNumber else .zeroDivisor (.ratio n)

def Meeting.apply (op : Operator) : Meeting → Except Fault Value
  | .ints a b =>
    match op with
    | .add => .ok (.int (a + b))
    | .sub => .ok (.int (a - b))
    | .mul => .ok (.int (a * b))
    | .div =>
      if b = 0 then .error (.zeroDivisor .exact)
      else
        match nearest? (a / b : Rat) with
        | some x => .ok (.float (if a = 0 && b < 0 then -0.0 else x))
        | none => .error (.tooLarge .quotient)
    | .floorDiv => if b = 0 then .error (.zeroDivisor .floor) else .ok (.int (a.fdiv b))
  | .ratios a b =>
    match op with
    | .add => .ok (.ratio (a + b))
    | .sub => .ok (.ratio (a - b))
    | .mul => .ok (.ratio (a * b))
    | .div => if b = 0 then .error (overZero (signOf a)) else .ok (.ratio (a / b))
    | .floorDiv => if b = 0 then .error (.zeroDivisor .floor) else .ok (.int (a / b).floor)
  | .floats a b =>
    match op with
    | .add => .ok (.float (a + b))
    | .sub => .ok (.float (a - b))
    | .mul => .ok (.float (a * b))
    | .div => if b == 0 then .error (.zeroDivisor .float) else .ok (.float (a / b))
    | .floorDiv =>
      if b == 0 then .error (.zeroDivisor .floatFloor) else .ok (.float (floatFloorDiv a b))

-- The longest sequence a repetition may build.
def repetitionLimit : Nat := 0x8000000

-- How often something of a size is repeated. A length that is no index at all is the fault
-- `tooLong`, one that only memory does not hold is another.
def repetitions (tooLong : Fault) (size : Nat) (count : Int) : Except Fault Nat :=
  let length := size * count.toNat
  if !Value.fitsIndex count then .error (.tooLarge .index)
  else if length = 0 then .ok 0
  else if !Value.fitsIndex length then .error tooLong
  else if repetitionLimit < length then .error .memory
  else .ok count.toNat

-- Repeats items.
def repeated {α : Type} (tooLong : Fault) (items : List α) (count : Int) :
    Except Fault (List α) :=
  (repetitions tooLong items.length count).map fun n => (List.replicate n items).flatten

namespace Value

def isSequence : Value → Bool
  | .str _ | .kind _ | .bytes _ | .list _ | .tuple _ => true
  | _ => false

-- A sequence joined with another value.
def joined? (a b : Value) : Option (Except Fault Value) :=
  match a, b with
  | .bytes s, .bytes t => some (.ok (.bytes (s ++ t)))
  | .list s, .list t => some (.ok (.list (s ++ t)))
  | .tuple s, .tuple t => some (.ok (.tuple (s ++ t)))
  | .bytes _, b => some (.error (.type (.byteConcatenation b.operandType)))
  | .list _, b => some (.error (.type (.concatenation "list" b.operandType)))
  | .tuple _, b => some (.error (.type (.concatenation "tuple" b.operandType)))
  | a, b =>
    match a.text?, b.text? with
    | some s, some t => some (.ok (.str (s ++ t)))
    | some _, Option.none => some (.error (.type (.concatenation "str" b.operandType)))
    | Option.none, _ => Option.none

-- A sequence repeated as often as a number says.
def repetition (sequence count : Value) : Except Fault Value :=
  match count.number? with
  | some (.int n) =>
    match sequence with
    | .bytes bs => (repeated (.tooLarge .repeatedBytes) bs n).map .bytes
    | .list items => (repeated .memory items n).map .list
    | .tuple items => (repeated .memory items n).map .tuple
    | v =>
      let text := v.text?.getD ""
      (repetitions (.tooLarge .repeatedText) (Text.size text) n).map fun count =>
        .str (Text.times text count)
  | _ => .error (.type (.repetition count.operandType))

-- The text of a path, or of a text that can be part of one.
def pathText? : Value → Option String
  | .record .path [.str path] _ => some path
  | v => v.text?.map fun _ => v.plain

-- Paths below each other; one of the two has to be a path already.
def joinedPath? (a b : Value) : Option Value :=
  match a, b with
  | .record .path _ _, _ | _, .record .path _ _ =>
    match a.pathText?, b.pathText? with
    | some base, some path => some (.record .path [.str (Path.join [base, path])] 0)
    | _, _ => Option.none
  | _, _ => Option.none

def binary (op : Operator) (a b : Value) : Except Fault Value :=
  let unsupported : Except Fault Value := .error (.type (.operands op a.operandType b.operandType))
  match a.number?, b.number? with
  | some x, some y => do (← x.meet y).apply op
  | _, _ =>
    match op with
    | .add => (a.joined? b).getD unsupported
    | .mul =>
      if a.isSequence then repetition a b
      else if b.isSequence then repetition b a
      else unsupported
    | .sub =>
      match a, b with
      | .set s, .set t => .ok (.set (s.filter fun item => !t.any item.sameKey))
      | _, _ => unsupported
    | .div => (a.joinedPath? b).elim unsupported .ok
    | .floorDiv => unsupported

def rational? (v : Value) : Option Rat :=
  match v.number? with
  | some (.int n) => some n
  | some (.ratio q) => some q
  | _ => Option.none

-- The exact ratio of two rationals.
def ratioOf (a b : Value) : Except Fault Value :=
  match a.rational?, b.rational? with
  | some p, some q => if q = 0 then .error (overZero p.num) else .ok (.ratio (p / q))
  | _, _ => .error (.type .ratioArguments)

-- The exact ratio that a text denotes.
def textRatio (shown text : String) : Except Fault Value :=
  match RatioText.parse? text with
  | Option.none => .error (.value (.ratioText shown))
  | some parts =>
    match parts.value with
    | .error cause => .error (.value cause)
    | .ok (n, d) => if d = 0 then .error (overZero n) else .ok (.ratio (mkRat n d))

-- The exact ratio that one value denotes.
def toRatio (v : Value) : Except Fault Value :=
  match v with
  | .float x =>
    match exactValue? x with
    | some q => .ok (.ratio q)
    | Option.none => .error (.tooLarge .infinity)
  | .nan _ => .error (.value .nanRatio)
  | v =>
    match v.text?, v.rational? with
    | some text, _ => textRatio v.shown text
    | Option.none, some q => .ok (.ratio q)
    | Option.none, Option.none => .error (.type .ratioArgument)

-- A ratio of two values, or of one alone when the second is absent.
def ratioFrom (a b : Value) : Except Fault Value :=
  match b with
  | .none => a.toRatio
  | b => a.ratioOf b

end Value

end StepFlow
