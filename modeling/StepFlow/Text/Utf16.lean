namespace StepFlow.Text.Utf16

-- The units of bytes, which have to be even in number.
def units? (bigEndian : Bool) : List UInt8 → Option (List Nat)
  | [] => some []
  | [_] => none
  | a :: b :: rest =>
    let unit := if bigEndian then a.toNat * 256 + b.toNat else b.toNat * 256 + a.toNat
    (units? bigEndian rest).map (unit :: ·)

def opensPair (unit : Nat) : Bool :=
  0xD800 ≤ unit && unit < 0xDC00

def closesPair (unit : Nat) : Bool :=
  0xDC00 ≤ unit && unit < 0xE000

-- The character that the units of a pair stand for.
def paired (first second : Nat) : Char :=
  Char.ofNat (0x10000 + (first - 0xD800) * 0x400 + (second - 0xDC00))

-- The characters of units.
def characters? : List Nat → Option (List Char)
  | [] => some []
  | [unit] =>
    if opensPair unit || closesPair unit then none else some [Char.ofNat unit]
  | first :: second :: rest =>
    if closesPair first then none
    else if opensPair first then
      if closesPair second then (characters? rest).map (paired first second :: ·) else none
    else (characters? (second :: rest)).map (Char.ofNat first :: ·)

-- The order of bytes that a mark at their start tells, if there is one.
def markedOrder? : List UInt8 → Option Bool
  | 0xFF :: 0xFE :: _ => some false
  | 0xFE :: 0xFF :: _ => some true
  | _ => none

def decode? (bigEndian : Bool) (bytes : List UInt8) : Option (List Char) :=
  (units? bigEndian bytes).bind characters?

end StepFlow.Text.Utf16
