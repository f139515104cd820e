namespace StepFlow.Yaml

structure Cursor where
  rest : List Char
  index : Nat
  line : Nat
  column : Nat

-- The mark that may open a text; it takes no column.
def byteOrderMark : Char := Char.ofNat 0xFEFF

-- Characters that end a line.
def isBreak (c : Char) : Bool :=
  c = '\n' || c = '\r' || c.toNat = 0x85 || c.toNat = 0x2028 || c.toNat = 0x2029

-- Spaces, tabs and line ends.
def isSpace (c : Char) : Bool :=
  c = ' ' || c = '\t' || isBreak c

-- Whether a word ends before a character, or before the end of the text.
def endsWord : Option Char → Bool
  | none => true
  | some c => isSpace c

-- Characters a YAML text may hold.
def isAllowed (c : Char) : Bool :=
  let n := c.toNat
  n = 9 || n = 10 || n = 13 || 0x20 ≤ n && n ≤ 0x7E || n = 0x85 || 0xA0 ≤ n && n ≤ 0xD7FF ||
    0xE000 ≤ n && n ≤ 0xFFFD || 0x10000 ≤ n

namespace Cursor

def start (text : List Char) : Cursor :=
  ⟨text, 0, 0, 0⟩

def peek (c : Cursor) : Option Char :=
  c.rest.head?

-- Steps over characters that are not line ends.
def skip (n : Nat) (c : Cursor) : Cursor :=
  let taken := c.rest.take n
  ⟨c.rest.drop n, c.index + taken.length, c.line,
    c.column + (taken.filter (· != byteOrderMark)).length⟩

-- The characters that satisfy `p` from here on, none of them a line end.
def span (p : Char → Bool) (c : Cursor) : List Char × Cursor :=
  let taken := c.rest.takeWhile fun ch => p ch && !isBreak ch
  (taken, c.skip taken.length)

-- Steps over a line end, which is read as a line feed or one of the two Unicode separators.
def lineBreak? (c : Cursor) : Option (Char × Cursor) :=
  match c.rest with
  | '\r' :: '\n' :: rest => some ('\n', ⟨rest, c.index + 2, c.line + 1, 0⟩)
  | ch :: rest =>
    if isBreak ch then
      some (if ch.toNat < 0x2028 then '\n' else ch, ⟨rest, c.index + 1, c.line + 1, 0⟩)
    else none
  | [] => none

-- Whether one of the two lines that separate documents starts here.
def atSeparator (c : Cursor) : Bool :=
  match c.rest with
  | a :: b :: d :: rest => a = b && b = d && (a = '-' || a = '.') && endsWord rest.head?
  | _ => false

end Cursor

end StepFlow.Yaml
