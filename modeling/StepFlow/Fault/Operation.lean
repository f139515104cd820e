namespace StepFlow

-- The longest number that is written or read in decimal digits.
def digitLimit : Nat := 4300

inductive Operator where
  | add
  | sub
  | mul
  | div
  | floorDiv
deriving DecidableEq, Repr

def Operator.symbol : Operator → String
  | .add => "+"
  | .sub => "-"
  | .mul => "*"
  | .div => "/"
  | .floorDiv => "//"

-- Which of the divisions met a zero.
inductive ZeroDivisor where
  | exact
  | floor
  | float
  | floatFloor
  | ratio (numerator : Int)
deriving DecidableEq, Repr

def ZeroDivisor.message : ZeroDivisor → String
  | .exact => "division by zero"
  | .floor => "integer division or modulo by zero"
  | .float => "float division by zero"
  | .floatFloor => "float floor division by zero"
  | .ratio numerator => s!"Fraction({numerator}, 0)"

-- Numbers that do not fit where they are put.
inductive TooLarge where
  | toFloat
  | quotient
  | index
  | infinity
  | repeatedText
  | repeatedBytes
deriving DecidableEq, Repr

def TooLarge.message : TooLarge → String
  | .toFloat => "int too large to convert to float"
  | .quotient => "integer division result too large for a float"
  | .index => "cannot fit 'int' into an index-sized integer"
  | .infinity => "cannot convert Infinity to integer ratio"
  | .repeatedText => "repeated string is too long"
  | .repeatedBytes => "repeated bytes are too long"

-- Operations applied to values of types that do not have them.
inductive TypeFault where
  | operands (op : Operator) (left right : String)
  | concatenation (sequence other : String)
  | byteConcatenation (other : String)
  | repetition (typeName : String)
  | ratioArgument
  | ratioArguments
  | notCallable (typeName : String)
  | notIterable (typeName : String)
  | notContainer (typeName : String)
  | byteMembership (typeName : String)
  | notSubscriptable (typeName : String)
  | typeNotSubscriptable (name : String)
  | sequenceIndex (sequence typeName : String)
  | textIndex (typeName : String)
  | byteIndex (typeName : String)
  | noItemAssignment (typeName : String)
  | notMapping (typeName : String)
  | unhashable (typeName : String)
  | stepNotCallable (name : String)
  | keywordName
deriving DecidableEq, Repr

def TypeFault.message : TypeFault → String
  | .operands op left right =>
    s!"unsupported operand type(s) for {op.symbol}: '{left}' and '{right}'"
  | .concatenation sequence other =>
    s!"can only concatenate {sequence} (not \"{other}\") to {sequence}"
  | .byteConcatenation other => s!"can't concat {other} to bytes"
  | .repetition typeName => s!"can't multiply sequence by non-int of type '{typeName}'"
  | .ratioArgument => "argument should be a string or a Rational instance"
  | .ratioArguments => "both arguments should be Rational instances"
  | .notCallable typeName => s!"'{typeName}' object is not callable"
  | .notIterable typeName => s!"'{typeName}' object is not iterable"
  | .notContainer typeName => s!"argument of type '{typeName}' is not iterable"
  | .byteMembership typeName => s!"a bytes-like object is required, not '{typeName}'"
  | .notSubscriptable typeName => s!"'{typeName}' object is not subscriptable"
  | .typeNotSubscriptable name => s!"type '{name}' is not subscriptable"
  | .sequenceIndex sequence typeName =>
    s!"{sequence} indices must be integers or slices, not {typeName}"
  | .textIndex typeName => s!"string indices must be integers, not '{typeName}'"
  | .byteIndex typeName => s!"byte indices must be integers or slices, not {typeName}"
  | .noItemAssignment typeName => s!"'{typeName}' object does not support item assignment"
  | .notMapping typeName => s!"'{typeName}' object is not a mapping"
  | .unhashable typeName => s!"unhashable type: '{typeName}'"
  | .stepNotCallable name => s!"Step '{name}' must be callable."
  | .keywordName => "keywords must be strings"

-- Text or a number that does not have the value asked for. `tooManyDigits` is a number written
-- with more digits than are read.
inductive ValueFault where
  | ratioText (shown : String)
  | nanRatio
  | digits (base : Nat) (shown : String)
  | tooManyDigits (count : Nat)
  | noMember (shown type : String)
deriving DecidableEq, Repr

def ValueFault.message : ValueFault → String
  | .ratioText shown => s!"Invalid literal for Fraction: {shown}"
  | .nanRatio => "cannot convert NaN to integer ratio"
  | .digits base shown => s!"invalid literal for int() with base {base}: {shown}"
  | .tooManyDigits count =>
    s!"Exceeds the limit ({digitLimit} digits) for integer string conversion: value has {count} " ++
      "digits; use sys.set_int_max_str_digits() to increase the limit"
  | .noMember shown type => s!"{shown} is not a valid {type}"

end StepFlow
