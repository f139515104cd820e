import StepFlow.Fault.Operation
import StepFlow.Text.Blank
import StepFlow.Text.Digit
import StepFlow.Text.Quoted

namespace StepFlow.Numeric

open StepFlow.Text

-- A run of digits in which single underscores may stand between two digits, with the digits
-- read and what follows; none if no digit comes first.
def digitRun? : List Char → Option (List Nat × List Char)
  | [] => none
  | c :: cs =>
    match digitValue? c with
    | none => none
    | some d =>
      match digitRun? cs with
      | some (ds, rest) => some (d :: ds, rest)
      | none =>
        match cs with
        | '_' :: tail =>
          match digitRun? tail with
          | some (ds, rest) => some (d :: ds, rest)
          | none => some ([d], cs)
        | _ => some ([d], cs)

def ofDigits (ds : List Nat) : Nat :=
  ds.foldl (fun n d => 10 * n + d) 0

-- Takes a sign, if there is one, and tells whether it was a minus.
def signed : List Char → Bool × List Char
  | '-' :: cs => (true, cs)
  | '+' :: cs => (false, cs)
  | cs => (false, cs)

-- What follows the whole part: a denominator, or a fractional part, of digits or letters, and an
-- exponent with its sign.
inductive RatioTail where
  | denominator (digits : List Nat)
  | fraction (letters : List Char) (digits : List Nat) (exponent? : Option (Bool × List Nat))

structure RatioText where
  negative : Bool
  whole : List Nat
  tail : RatioTail

namespace RatioText

-- An exponent mark with its sign and digits, if a complete one comes next.
def exponent? : List Char → Option ((Bool × List Nat) × List Char)
  | c :: cs =>
    if c = 'e' || c = 'E' then
      let (negative, cs) := signed cs
      (digitRun? cs).map fun (ds, rest) => ((negative, ds), rest)
    else none
  | [] => none

-- A fractional part with the exponent that may follow it.
def scaled (letters : List Char) (ds : List Nat) (cs : List Char) : RatioTail × List Char :=
  match exponent? cs with
  | some (e, rest) => (.fraction letters ds (some e), rest)
  | none => (.fraction letters ds none, cs)

def isLetter (c : Char) : Bool :=
  c = 'd' || c = 'D'

-- What may follow a whole part, which may be absent only before a point and a digit.
def tail? (hasWhole : Bool) (cs : List Char) : Option (RatioTail × List Char) :=
  match cs with
  | '/' :: tail =>
    if hasWhole then (digitRun? tail).map fun (ds, rest) => (.denominator ds, rest) else none
  | '.' :: tail =>
    match digitRun? tail with
    | some (ds, rest) => some (scaled [] ds rest)
    | none =>
      if hasWhole then some (scaled (tail.takeWhile isLetter) [] (tail.dropWhile isLetter))
      else none
  | _ => if hasWhole then some (scaled [] [] cs) else none

-- The parts of a text that has the form of a rational.
def parse? (text : String) : Option RatioText :=
  let (negative, cs) := signed (text.toList.dropWhile isBlank)
  let (whole?, rest) :=
    match digitRun? cs with
    | some (ds, rest) => (some ds, rest)
    | none => (none, cs)
  match tail? whole?.isSome rest with
  | some (tail, rest) =>
    if rest.all isBlank then some ⟨negative, whole?.getD [], tail⟩ else none
  | none => none

-- The number that digits denote, if they are not too many.
def numberOf (ds : List Nat) : Except ValueFault Nat :=
  if digitLimit < ds.length then .error (.tooManyDigits ds.length) else .ok (ofDigits ds)

-- The numerator and the denominator, which can be zero. They are not in lowest terms.
def value (text : RatioText) : Except ValueFault (Int × Nat) := do
  let whole ← numberOf text.whole
  let (n, d) ←
    match text.tail with
    | .denominator ds => do pure (whole, ← numberOf ds)
    | .fraction letters ds exponent? => do
      if !letters.isEmpty then throw (.digits 10 (quoted (String.ofList letters)))
      let scale := Nat.pow 10 ds.length
      let n := whole * scale + (← numberOf ds)
      match exponent? with
      | none => pure (n, scale)
      | some (negative, es) => do
        let e ← numberOf es
        pure (if negative then (n, scale * Nat.pow 10 e) else (n * Nat.pow 10 e, scale))
  return (if text.negative then -(n : Int) else n, d)

end RatioText

end StepFlow.Numeric
