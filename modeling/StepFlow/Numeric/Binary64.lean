namespace StepFlow.Numeric

-- The layout of a double: a fraction of 52 bits, an exponent of 11 bits, and a sign.
def fractionRange : Nat := 0x10000000000000

def signBit : Nat := 0x8000000000000000

-- The exponent field of the infinities and of not-a-number.
def lastExponent : Nat := 2047

-- The bits of the positive infinity; those of not-a-number without a sign are larger.
def infiniteBits : Nat := lastExponent * fractionRange

-- The rational that the bits of a finite double without a sign denote.
def magnitudeOf (bits : Nat) : Rat :=
  let fraction : Nat := bits % fractionRange
  let exponent : Nat := bits / fractionRange
  let significand : Nat := if exponent = 0 then fraction else fractionRange + fraction
  let scale := max exponent 1
  mkRat (significand * Nat.pow 2 (scale - 1075) : Nat) (Nat.pow 2 (1075 - scale))

-- The rational that a finite double denotes; none for an infinity or not-a-number.
def exactValue? (x : Float) : Option Rat :=
  let bits : Nat := x.toBits.toNat
  if bits % signBit / fractionRange = lastExponent then none
  else
    let magnitude := magnitudeOf (bits % signBit)
    some (if bits < signBit then magnitude else -magnitude)

-- `n / d` rounded to a natural number, a half to the even neighbour.
def roundedQuotient (n d : Nat) : Nat :=
  let q := n / d
  let r := n % d
  if 2 * r < d then q else if d < 2 * r then q + 1 else q + q % 2

-- The bits of the double nearest to `n / d`, halves to the even one; they reach the exponent
-- field of the infinities when the quotient is too large.
def nearestBits (n d : Nat) : Nat :=
  if n = 0 then 0
  else
    -- the quotient lies between `2 ^ (log - 1)` and `2 ^ (log + 1)`, so one of two scales gives
    -- it 53 digits
    let log : Int := (n.log2 : Int) - d.log2
    let reaches := d * Nat.pow 2 log.toNat ≤ n * Nat.pow 2 (-log).toNat
    let e := max (-1074) (if reaches then log - 52 else log - 53)
    let q := roundedQuotient (n * Nat.pow 2 (-e).toNat) (d * Nat.pow 2 e.toNat)
    q + (e + 1074).toNat * fractionRange

-- A quotient as a double has it.
def roundedRatio (n d : Nat) : Rat :=
  magnitudeOf (nearestBits n d)

-- The double nearest to a rational; none when the rational rounds past the largest one.
def nearest? (q : Rat) : Option Float :=
  let bits := nearestBits q.num.natAbs q.den
  if bits < infiniteBits then
    some (Float.ofBits (UInt64.ofNat (if q.num < 0 then bits + signBit else bits)))
  else none

def isNan (x : Float) : Bool :=
  x.toBits.toNat % signBit > infiniteBits

-- The sign bit, which also negative zero has.
def isNegative (x : Float) : Bool :=
  signBit ≤ x.toBits.toNat

end StepFlow.Numeric
