import StepFlow.Text.Spelling
import StepFlow.Yaml.Cursor

namespace StepFlow.Yaml

def flowIndicators : List Char :=
  [',', '[', ']', '\x7b', '\x7d']

-- Line ends folded: a single line feed is a space, others stand for themselves.
def folded (first : Char) (more : List Char) : List Char :=
  if first ≠ '\n' then first :: more else if more.isEmpty then [' '] else more

namespace Plain

-- The characters of a plain scalar up to a space, a colon that ends a key, or an indicator of
-- the flow collection around it.
def run (inFlow : Bool) : List Char → List Char
  | [] => []
  | ch :: rest =>
    let ends := isSpace ch ||
      ch = ':' && (endsWord rest.head? || inFlow && (rest.head?.any flowIndicators.contains)) ||
      inFlow && (ch = '?' || flowIndicators.contains ch)
    if ends then [] else ch :: run inFlow rest

-- Line ends and spaces after a first line end. A document separator ends the scalar. The fuel, here
-- and wherever a scalar is read, is more than the number of characters that are left.
def breaks : Nat → Cursor → Option (List Char) × Cursor
  | 0, c => (some [], c)
  | fuel + 1, c =>
    if c.peek = some ' ' then breaks fuel (c.skip 1)
    else
      match c.lineBreak? with
      | none => (some [], c)
      | some (ch, c) =>
        if c.atSeparator then (none, c)
        else
          let (more, c) := breaks fuel c
          (more.map (ch :: ·), c)

-- The space between two runs of a scalar, and whether a line ends in it.
def gap (fuel : Nat) (c : Cursor) : Option (List Char) × Cursor × Bool :=
  let (spaces, c) := c.span (· = ' ')
  match c.lineBreak? with
  | none => (some spaces, c, false)
  | some (ch, c) =>
    if c.atSeparator then (none, c, true)
    else
      let (more, c) := breaks fuel c
      (more.map (folded ch), c, true)

-- The runs of a plain scalar whose continuation lines have at least the given indentation. The
-- answer tells also whether the scalar ended at the end of a line.
def read (inFlow : Bool) (indent : Int) : Nat → Cursor → Bool → List Char × Cursor × Bool
  | 0, c, broke => ([], c, broke)
  | fuel + 1, c, broke =>
    let word := if c.peek = some '#' then [] else run inFlow c.rest
    if word.isEmpty then ([], c, broke)
    else
      let (space, c, broke) := gap fuel (c.skip word.length)
      match space with
      | none | some [] => (word, c, broke)
      | some space =>
        if c.peek = some '#' || !inFlow && (c.column : Int) < indent then (word, c, broke)
        else
          let (more, c, broke) := read inFlow indent fuel c broke
          (if more.isEmpty then word else word ++ space ++ more, c, broke)

end Plain

namespace Quoted

-- Escapes of one character after the backslash.
def escapes : List (Char × Nat) :=
  [('0', 0), ('a', 7), ('b', 8), ('t', 9), ('\t', 9), ('n', 10), ('v', 11), ('f', 12), ('r', 13),
    ('e', 27), (' ', 32), ('"', 34), ('\\', 92), ('/', 47), ('N', 0x85), ('_', 0xA0),
    ('L', 0x2028), ('P', 0x2029)]

-- Escapes of a code point in hexadecimal, with their number of digits.
def codeEscapes : List (Char × Nat) :=
  [('x', 2), ('u', 4), ('U', 8)]

def hexDigit? (c : Char) : Option Nat :=
  if '0' ≤ c && c ≤ '9' then some (c.toNat - 48)
  else if 'a' ≤ c && c ≤ 'f' then some (c.toNat - 87)
  else if 'A' ≤ c && c ≤ 'F' then some (c.toNat - 55)
  else none

def hexValue? (digits : List Char) : Option Nat :=
  digits.foldlM (fun n c => (hexDigit? c).map (16 * n + ·)) 0

-- The number written with exactly `n` digits.
def digits? (n : Nat) (c : Cursor) : Option (Nat × Cursor) := do
  let digits := c.rest.take n
  let code ← hexValue? digits
  if digits.length = n then some (code, c.skip n) else none

-- What spells the code point that an escape of `n` digits denotes.
def escaped? (n : Nat) (c : Cursor) : Option (List Char × Cursor) := do
  let (code, c) ← digits? n c
  if code < 0x110000 then some (Text.spell code, c) else none

-- Line ends with the spaces around them; a document separator may not stand in a quoted scalar.
def breaks : Nat → Cursor → Option (List Char × Cursor)
  | 0, _ => none
  | fuel + 1, c =>
    if c.atSeparator then none
    else
      let (_, c) := c.span fun ch => ch = ' ' || ch = '\t'
      match c.lineBreak? with
      | none => some ([], c)
      | some (ch, c) => (breaks fuel c).map fun (more, c) => (ch :: more, c)

-- What spells the text up to a space, a line end or the closing quote.
def run (double : Bool) : Nat → Cursor → Option (List Char × Cursor)
  | 0, _ => none
  | fuel + 1, c =>
    let keep (text : List Char) (c : Cursor) : Option (List Char × Cursor) :=
      (run double fuel c).map fun (more, c) => (text ++ more, c)
    match c.rest with
    | [] => some ([], c)
    | ch :: rest =>
      if isSpace ch then some ([], c)
      else if double then
        if ch = '"' then some ([], c)
        else if ch ≠ '\\' then keep (Text.spell ch.toNat) (c.skip 1)
        else
          let c := c.skip 1
          match rest with
          | [] => none
          | e :: _ =>
            match escapes.lookup e, codeEscapes.lookup e with
            | some code, _ => keep [Char.ofNat code] (c.skip 1)
            | none, some n =>
              match escaped? n (c.skip 1) with
              | some (text, c) => keep text c
              | none => none
            | none, none =>
              match c.lineBreak? with
              | none => none
              | some (_, c) =>
                match breaks fuel c with
                | some (more, c) => keep more c
                | none => none
      else if ch ≠ '\'' then keep (Text.spell ch.toNat) (c.skip 1)
      else
        match rest with
        | '\'' :: _ => keep ['\''] (c.skip 2)
        | _ => some ([], c)

-- The space between two runs.
def gap (fuel : Nat) (c : Cursor) : Option (List Char × Cursor) :=
  let (spaces, c) := c.span fun ch => ch = ' ' || ch = '\t'
  match c.lineBreak? with
  | some (ch, c) => do
    let (more, c) ← breaks fuel c
    return (folded ch more, c)
  | none => if c.rest.isEmpty then none else some (spaces, c)

-- The rest of a quoted scalar, to its closing quote.
def read (double : Bool) : Nat → Cursor → Option (List Char × Cursor)
  | 0, _ => none
  | fuel + 1, c => do
    let (text, c) ← run double fuel c
    if c.peek = some (if double then '"' else '\'') then return (text, c.skip 1)
    let (space, c) ← gap fuel c
    let (more, c) ← read double fuel c
    return (text ++ space ++ more, c)

end Quoted

namespace Block

-- What happens to the line ends that close a block scalar.
inductive Chomping where
  | strip
  | clip
  | keep

-- The header of a block scalar: chomping and indentation, in either order.
def header (c : Cursor) : Option (Chomping × Option Nat × Cursor) := do
  let chomping? (c : Cursor) : Option Chomping × Cursor :=
    match c.peek with
    | some '+' => (some .keep, c.skip 1)
    | some '-' => (some .strip, c.skip 1)
    | _ => (none, c)
  let digit? (c : Cursor) : Option Nat × Cursor :=
    match c.peek with
    | some ch => if '0' ≤ ch && ch ≤ '9' then (some (ch.toNat - 48), c.skip 1) else (none, c)
    | none => (none, c)
  let (first, c) := chomping? c
  let (indent, c) := digit? c
  let (second, c) := if first.isSome then (none, c) else chomping? c
  if indent = some 0 || !(endsWord c.peek && c.peek ≠ some '\t') then none
  let (_, c) := c.span (· = ' ')
  let (_, c) := if c.peek = some '#' then c.span fun _ => true else ([], c)
  let chomping := ((first <|> second).getD .clip)
  match c.lineBreak? with
  | some (_, c) => return (chomping, indent, c)
  | none => if c.rest.isEmpty then return (chomping, indent, c) else none

-- Empty lines before the first line of text, and the widest indentation among them.
def leading : Nat → Cursor → Nat → List Char × Nat × Cursor
  | 0, c, widest => ([], widest, c)
  | fuel + 1, c, widest =>
    if c.peek = some ' ' then
      let c := c.skip 1
      leading fuel c (max widest c.column)
    else
      match c.lineBreak? with
      | none => ([], widest, c)
      | some (ch, c) =>
        let (more, widest, c) := leading fuel c widest
        (ch :: more, widest, c)

-- Spaces up to the indentation of the scalar.
def indentation (indent : Nat) (c : Cursor) : Cursor :=
  c.skip (min (indent - c.column) (c.rest.takeWhile (· = ' ')).length)

-- Empty lines between lines of text.
def empties (indent : Nat) : Nat → Cursor → List Char × Cursor
  | 0, c => ([], c)
  | fuel + 1, c =>
    let c := indentation indent c
    match c.lineBreak? with
    | none => ([], c)
    | some (ch, c) =>
      let (more, c) := empties indent fuel c
      (ch :: more, c)

-- The lines of a block scalar, given the empty lines before them.
def lines (fold : Bool) (chomping : Chomping) (indent : Nat) :
    Nat → List Char → Cursor → List Char × Cursor
  | 0, _, c => ([], c)
  | fuel + 1, before, c =>
    let indented (c : Cursor) : Bool := c.peek.any fun ch => ch = ' ' || ch = '\t'
    let close (line : List Char) (after : List Char) : List Char :=
      match chomping with
      | .strip => []
      | .clip => line
      | .keep => line ++ after
    if c.column ≠ indent || c.rest.isEmpty then (close [] before, c)
    else
      let flush := !indented c
      let (text, c) := c.span fun _ => true
      let (line, c) :=
        match c.lineBreak? with
        | some (ch, c) => ([ch], c)
        | none => ([], c)
      let (after, c) := empties indent fuel c
      if c.column = indent && !c.rest.isEmpty then
        let join :=
          if fold && line = ['\n'] && flush && !indented c then
            if after.isEmpty then [' '] else []
          else line
        let (others, c) := lines fold chomping indent fuel after c
        (before ++ text ++ join ++ others, c)
      else (before ++ text ++ close line after, c)

-- A block scalar after its indicator, inside a collection of the given indentation.
def read (fold : Bool) (parent : Int) (fuel : Nat) (c : Cursor) :
    Option (List Char × Cursor) := do
  let (chomping, indent?, c) ← header c
  let least := (max 1 (parent + 1)).toNat
  match indent? with
  | some n =>
    let indent := least + n - 1
    let (before, c) := empties indent fuel c
    return lines fold chomping indent fuel before c
  | none =>
    let (before, widest, c) := leading fuel c 0
    return lines fold chomping (max least widest) fuel before c

end Block

end StepFlow.Yaml
