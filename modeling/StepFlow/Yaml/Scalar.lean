import StepFlow.Yaml.Node
import StepFlow.Value.Basic
import StepFlow.Numeric.FloatText

namespace StepFlow.Yaml

open StepFlow.Numeric

-- `malformed` covers everything that is no YAML of this subset. `digits` is a number that has a
-- base but no digits, and `tooManyDigits` one with more decimal digits than are read.
inductive Fault where
  | malformed
  | digits (base : Nat)
  | tooManyDigits (count : Nat)
deriving DecidableEq, Repr

namespace Scalar

def isDigit (c : Char) : Bool :=
  '0' ≤ c && c ≤ '9'

-- Digits or underscores.
def isSpaced (c : Char) : Bool :=
  isDigit c || c = '_'

def isSpacedOctal (c : Char) : Bool :=
  '0' ≤ c && c ≤ '7' || c = '_'

def isSpacedHex (c : Char) : Bool :=
  (Quoted.hexDigit? c).isSome || c = '_'

def isSpacedBinary (c : Char) : Bool :=
  c = '0' || c = '1' || c = '_'

def nothing : List String :=
  ["", "~", "null", "Null", "NULL"]

def truths : List String :=
  ["yes", "Yes", "YES", "true", "True", "TRUE", "on", "On", "ON"]

def falsehoods : List String :=
  ["no", "No", "NO", "false", "False", "FALSE", "off", "Off", "OFF"]

-- A sign, if there is one, and the rest.
def unsigned : List Char → Bool × List Char
  | '-' :: cs => (true, cs)
  | '+' :: cs => (false, cs)
  | cs => (false, cs)

-- The value of digits in a base, underscores left out.
def valueIn (base : Nat) (cs : List Char) : Nat :=
  (cs.filterMap Quoted.hexDigit?).foldl (fun n d => base * n + d) 0

def signedInt (negative : Bool) (n : Nat) : Value :=
  .int (if negative then -(n : Int) else n)

-- A number after a colon: at most two digits, less than sixty.
def isSixtieth (cs : List Char) : Bool :=
  match cs with
  | [a] => isDigit a
  | [a, b] => '0' ≤ a && a ≤ '5' && isDigit b
  | _ => false

-- The parts between colons.
def colonParts (cs : List Char) : List (List Char) :=
  cs.splitOn ':'

def ofSixtieths (parts : List Nat) : Nat :=
  parts.foldl (fun n d => 60 * n + d) 0

-- The value of decimal digits, as long as there are not too many of them.
def decimalIn (cs : List Char) : Except Fault Nat :=
  let count := (cs.filter isDigit).length
  if digitLimit < count then .error (.tooManyDigits count) else .ok (valueIn 10 cs)

-- A first part of spaced digits that does not start with zero, and sixtieths after it.
def sixtieths? (cs : List Char) : Option (List (List Char)) :=
  match colonParts cs with
  | (d :: ds) :: rest =>
    if isDigit d && d ≠ '0' && ds.all isSpaced && !rest.isEmpty && rest.all isSixtieth then
      some ((d :: ds) :: rest)
    else none
  | _ => none

-- Integers; `some (.error _)` is an integer by its form that has no digits or too many.
def int? (text : List Char) : Option (Except Fault Value) :=
  let (negative, cs) := unsigned text
  let inBase (base : Nat) (ds : List Char) : Except Fault Value :=
    if ds.all (· = '_') then .error (.digits base)
    else .ok (signedInt negative (valueIn base ds))
  match cs with
  | [] => none
  | ['0'] => some (.ok (.int 0))
  | '0' :: 'b' :: ds =>
    if !ds.isEmpty && ds.all isSpacedBinary then some (inBase 2 ds) else none
  | '0' :: 'x' :: ds =>
    if !ds.isEmpty && ds.all isSpacedHex then some (inBase 16 ds) else none
  | '0' :: ds => if ds.all isSpacedOctal then some (inBase 8 cs) else none
  | d :: ds =>
    if isDigit d && ds.all isSpaced then some ((decimalIn cs).map (signedInt negative))
    else
      (sixtieths? cs).map fun parts => do
        return signedInt negative (ofSixtieths (← parts.mapM decimalIn))

-- Not-a-number is one value, however often it is written.
def notANumber : Value := .nan 0

-- An exponent: a letter, a sign and digits. Without one the exponent is zero.
def exponent? (cs : List Char) : Option Int :=
  match cs with
  | [] => some 0
  | e :: sign :: ds =>
    if (e = 'e' || e = 'E') && (sign = '+' || sign = '-') && !ds.isEmpty && ds.all isDigit then
      let n : Int := valueIn 10 ds
      some (if sign = '-' then -n else n)
    else none
  | _ => none

def digitsOf (cs : List Char) : List Char :=
  cs.filter (· ≠ '_')

-- Decimal fractions: whole part, point, and the fraction with its exponent.
def fraction? (negative : Bool) (whole tail : List Char) : Option Value :=
  let fraction := tail.takeWhile isSpaced
  (exponent? (tail.dropWhile isSpaced)).map fun e =>
    let ds := digitsOf fraction
    .float (decimal negative (valueIn 10 (whole ++ ds)) (e - ds.length))

-- A number of sixtieths whose last part has a fraction.
def sixtiethFraction? (negative : Bool) (whole tail : List Char) : Option Value :=
  let parts? :=
    match colonParts whole with
    | (d :: ds) :: rest =>
      if isDigit d && ds.all isSpaced && !rest.isEmpty && rest.all isSixtieth then
        some (((d :: ds) :: rest).map (valueIn 10))
      else none
    | _ => none
  match parts? with
  | none => none
  | some parts =>
    if tail.all isSpaced then
      let ds := digitsOf tail
      let lastDigits := Nat.toDigits 10 (parts.getLast?.getD 0) ++ ds
      let last := decimal false (valueIn 10 lastDigits) (-ds.length)
      -- summed from the last part up, each part times its power of sixty
      let sum := (parts.dropLast.reverse.foldl
        (fun (total, base) d => (total + Float.ofNat d * base, base * 60)) (0 + last, 60.0)).1
      some (.float (if negative then -sum else sum))
    else none

def float? (text : List Char) : Option Value :=
  let (negative, cs) := unsigned text
  let whole := cs.takeWhile (· ≠ '.')
  match cs.dropWhile (· ≠ '.') with
  | [] => none
  | _ :: tail =>
    match whole with
    | [] =>
      let word := String.ofList tail
      if ["inf", "Inf", "INF"].contains word then
        some (.float (if negative then -infinity else infinity))
      else if cs.length ≠ text.length then none
      else if ["nan", "NaN", "NAN"].contains word then some notANumber
      else if tail.head?.any isDigit then fraction? false [] tail
      else none
    | d :: ds =>
      if isDigit d && ds.all isSpaced then fraction? negative whole tail
      else sixtiethFraction? negative whole tail

-- The value of a plain scalar. The marks `=` and `<<` have no value of their own.
def plain (text : String) : Except Fault Value :=
  let cs := text.toList
  if nothing.contains text then .ok .none
  else if truths.contains text then .ok (.bool true)
  else if falsehoods.contains text then .ok (.bool false)
  else if text = "=" || text = "<<" then .error .malformed
  else
    match float? cs with
    | some v => .ok v
    | none => (int? cs).getD (.ok (.str text))

end Scalar

end StepFlow.Yaml
