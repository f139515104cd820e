import StepFlow.Numeric.Binary64

namespace StepFlow.Numeric

-- `10 ^ e` for any integer exponent.
def powerOfTen (e : Int) : Rat :=
  mkRat (Nat.pow 10 e.toNat : Nat) (Nat.pow 10 (-e).toNat)

-- The exponent of the first digit of a positive rational: the largest `e` with `10 ^ e ≤ q`. The
-- lengths of numerator and denominator leave two candidates.
def firstExponent (q : Rat) : Int :=
  let start : Int := (Nat.toDigits 10 q.num.natAbs).length - (Nat.toDigits 10 q.den).length
  if powerOfTen start ≤ q then start else start - 1

-- The nearest digits with the given last place that read back as `x`, if any do: only the two
-- neighbours of the value on that decimal grid can be the nearest.
def digitsAt? (x : Float) (q : Rat) (place : Int) : Option Nat :=
  let scaled := q / powerOfTen place
  let below := scaled.floor.toNat
  let readsBack (n : Nat) : Bool :=
    match nearest? (n * powerOfTen place) with
    | some y => y.toBits == x.toBits
    | none => false
  match readsBack below, readsBack (below + 1) with
  | true, true =>
    let gap := scaled - below
    if gap < 1 / 2 || (gap = 1 / 2 && below % 2 = 0) then some below else some (below + 1)
  | true, false => some below
  | false, true => some (below + 1)
  | false, false => none

-- The shortest digits of a positive double with the exponent of the first digit. Seventeen
-- digits always read back, so the search ends there.
def shortestDigits (x : Float) (q : Rat) : List Char × Int :=
  let exponent := firstExponent q
  let found := (List.range 17).findSome? fun (k : Nat) =>
    (digitsAt? x q (exponent - k)).map fun n => (n, exponent - k)
  match found with
  | some (n, place) =>
    let digits := Nat.toDigits 10 n
    -- a carry past the first digit leaves a zero at the end
    let kept := (digits.reverse.dropWhile (· == '0')).reverse
    (kept, place + digits.length - 1)
  | none => (['0'], 0)

def zeros (n : Nat) : List Char :=
  List.replicate n '0'

-- Positional text of digits whose first one has the given exponent; a point always stands.
def positional (digits : List Char) (exponent : Int) : List Char :=
  if exponent < 0 then
    '0' :: '.' :: (zeros ((-exponent).toNat - 1) ++ digits)
  else
    let whole := exponent.toNat + 1
    let fraction := digits.drop whole
    digits.take whole ++ zeros (whole - digits.length) ++
      '.' :: (if fraction.isEmpty then ['0'] else fraction)

-- One digit, a point if more follow, and an exponent of a sign and at least two digits.
def scientific (digits : List Char) (exponent : Int) : List Char :=
  let power := Nat.toDigits 10 exponent.natAbs
  digits.take 1 ++ (if digits.length > 1 then '.' :: digits.drop 1 else []) ++
    'e' :: (if exponent < 0 then '-' else '+') :: (zeros (2 - power.length) ++ power)

def shortest (x : Float) : String :=
  match exactValue? x with
  | none => if isNan x then "nan" else if isNegative x then "-inf" else "inf"
  | some q =>
    let text :=
      if q = 0 then ['0', '.', '0']
      else
        let magnitude := if q < 0 then -q else q
        let (digits, exponent) := shortestDigits x.abs magnitude
        if -4 ≤ exponent && exponent < 16 then positional digits exponent
        else scientific digits exponent
    String.ofList (if isNegative x then '-' :: text else text)

end StepFlow.Numeric
