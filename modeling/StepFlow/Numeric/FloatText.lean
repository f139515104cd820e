import StepFlow.Numeric.Binary64
import StepFlow.Numeric.RatioText

namespace StepFlow.Numeric

open StepFlow.Text

def infinity : Float := 1 / 0

-- The double nearest to `n * 10 ^ e`; a number past the largest one is infinite.
def decimal (negative : Bool) (n : Nat) (e : Int) : Float :=
  let x :=
    if n = 0 || e < -400 - (Nat.toDigits 10 n).length then 0
    else if 400 < e then infinity
    else (nearest? (mkRat (n * Nat.pow 10 e.toNat : Nat) (Nat.pow 10 (-e).toNat))).getD infinity
  if negative then -x else x

namespace FloatText

-- The blanks that may stand around a number. The separators of the control characters are none.
def isMargin (c : Char) : Bool :=
  isBlank c && !(0x1C ≤ c.toNat && c.toNat < 0x20)

-- A number of digits and how many of them stand behind the point, with the exponent after them.
def scaled? (negative : Bool) (digits : List Nat) (behind : Nat) (cs : List Char) : Option Float :=
  match cs, RatioText.exponent? cs with
  | [], _ => some (decimal negative (ofDigits digits) (-behind))
  | _, some ((down, es), []) =>
    let e : Int := ofDigits es
    some (decimal negative (ofDigits digits) ((if down then -e else e) - behind))
  | _, _ => none

def number? (negative : Bool) (cs : List Char) : Option Float :=
  let (whole, rest) := (digitRun? cs).getD ([], cs)
  match rest with
  | '.' :: tail =>
    let (fraction, rest) := (digitRun? tail).getD ([], tail)
    let digits := whole ++ fraction
    if digits.isEmpty then none else scaled? negative digits fraction.length rest
  | rest => if whole.isEmpty then none else scaled? negative whole 0 rest

-- The double that a text denotes.
def parse? (text : String) : Option Float :=
  let (negative, cs) := signed (trimBoth isMargin text.toList)
  let word := String.ofList (cs.map Char.toLower)
  if word = "inf" || word = "infinity" then some (if negative then -infinity else infinity)
  else if word = "nan" then some (0 / 0)
  else number? negative cs

end FloatText

end StepFlow.Numeric
