namespace StepFlow.Text

inductive Utf8Cause where
  | invalidStart
  | invalidContinuation
  | unexpectedEnd
deriving DecidableEq, Repr

-- The first bytes that do not decode: their position and number, and the first of them.
structure Undecodable where
  cause : Utf8Cause
  position : Nat
  length : Nat
  lead : UInt8
deriving DecidableEq, Repr

def isContinuation (b : UInt8) : Bool :=
  0x80 ≤ b && b < 0xC0

-- The second bytes that may follow a lead byte of a longer sequence: overlong forms, surrogates
-- and code points past the last one are excluded here.
def isSecond (lead b : UInt8) : Bool :=
  if lead = 0xE0 then 0xA0 ≤ b && b < 0xC0
  else if lead = 0xED then 0x80 ≤ b && b < 0xA0
  else if lead = 0xF0 then 0x90 ≤ b && b < 0xC0
  else if lead = 0xF4 then 0x80 ≤ b && b < 0x90
  else isContinuation b

-- The code point of a lead byte's own bits followed by continuation bytes.
def codePoint (leadBits : Nat) (tail : List UInt8) : Char :=
  Char.ofNat (tail.foldl (fun n b => n * 64 + b.toNat % 64) leadBits)

-- Decodes the bytes from a position on. A sequence that the input cuts off is unexpected end; a
-- byte that cannot continue its sequence makes the bytes before it in the sequence invalid.
def decodeFrom (position : Nat) : List UInt8 → Except Undecodable (List Char)
  | [] => .ok []
  | b :: bs =>
    let fail (cause : Utf8Cause) (length : Nat) : Except Undecodable (List Char) :=
      .error ⟨cause, position, length, b⟩
    if b < 0x80 then
      (decodeFrom (position + 1) bs).map (Char.ofNat b.toNat :: ·)
    else if b < 0xC2 || 0xF5 ≤ b then fail .invalidStart 1
    else
      match bs with
      | [] => fail .unexpectedEnd 1
      | b₂ :: bs =>
        if !isSecond b b₂ then fail .invalidContinuation 1
        else if b < 0xE0 then
          (decodeFrom (position + 2) bs).map (codePoint (b.toNat % 32) [b₂] :: ·)
        else
          match bs with
          | [] => fail .unexpectedEnd 2
          | b₃ :: bs =>
            if !isContinuation b₃ then fail .invalidContinuation 2
            else if b < 0xF0 then
              (decodeFrom (position + 3) bs).map (codePoint (b.toNat % 16) [b₂, b₃] :: ·)
            else
              match bs with
              | [] => fail .unexpectedEnd 3
              | b₄ :: bs =>
                if !isContinuation b₄ then fail .invalidContinuation 3
                else
                  (decodeFrom (position + 4) bs).map
                    (codePoint (b.toNat % 8) [b₂, b₃, b₄] :: ·)

end StepFlow.Text
