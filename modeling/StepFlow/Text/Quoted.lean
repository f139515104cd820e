import StepFlow.Text.Printable
import StepFlow.Text.Spelling

namespace StepFlow.Text

-- `n` in base 16 with small letters, padded with zeros to `width`.
def hex (width n : Nat) : String :=
  let digits := Nat.toDigits 16 n
  String.ofList (List.replicate (width - digits.length) '0' ++ digits)

-- The quote to write around the characters.
def quoteFor (cs : List Char) : Char :=
  if cs.contains '\'' && !cs.contains '"' then '"' else '\''

-- The escape of a character that has one of its own, whatever else is printable.
def shortEscape? (quote c : Char) : Option String :=
  if c = quote || c = '\\' then some (String.ofList ['\\', c])
  else if c = '\t' then some "\\t"
  else if c = '\n' then some "\\n"
  else if c = '\r' then some "\\r"
  else none

-- The escape of a code point by its number.
def escapedCode (code : Nat) : String :=
  if code < 0x100 then "\\x" ++ hex 2 code
  else if code < 0x10000 then "\\u" ++ hex 4 code
  else "\\U" ++ hex 8 code

def quotedCode (quote : Char) (code : Nat) : String :=
  let c := Char.ofNat code
  if isHalf code then escapedCode code
  else
    match shortEscape? quote c with
    | some escape => escape
    | none => if isPrintable c then String.singleton c else escapedCode code

def quoted (text : String) : String :=
  let quote := quoteFor text.toList
  String.singleton quote ++ String.join ((codes text).map (quotedCode quote)) ++
    String.singleton quote

def quotedByte (quote : Char) (b : UInt8) : String :=
  let c := Char.ofNat b.toNat
  match shortEscape? quote c with
  | some escape => escape
  | none => if 32 ≤ b.toNat && b.toNat < 127 then String.singleton c else "\\x" ++ hex 2 b.toNat

-- The quoted form of a byte string, marked by a `b` before the quote.
def quotedBytes (bytes : List UInt8) : String :=
  let quote := quoteFor (bytes.map fun b => Char.ofNat b.toNat)
  "b" ++ String.singleton quote ++ String.join (bytes.map (quotedByte quote)) ++
    String.singleton quote

end StepFlow.Text
