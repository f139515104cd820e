import StepFlow.Yaml.ScalarText

namespace StepFlow.Yaml

-- A block collection starts where a line is indented further than the collections around it, and
-- ends where a line is indented less.
inductive Token where
  | documentStart
  | documentEnd
  | blockSequenceStart
  | blockMappingStart
  | blockEnd
  | flowSequenceStart
  | flowSequenceEnd
  | flowMappingStart
  | flowMappingEnd
  | blockEntry
  | flowEntry
  | key
  | value
  | aliasOf (name : String)
  | anchor (name : String)
  | tag (handle? : Option String) (suffix : String)
  | scalar (text : String) (plain : Bool)
deriving DecidableEq

-- A token that a colon may turn into a key. It is required to be one if it opens a line of a
-- block mapping.
structure PossibleKey where
  token : Nat
  required : Bool
  index : Nat
  line : Nat
  column : Nat

structure Lexer where
  cursor : Cursor
  tokens : Array Token
  flowLevel : Nat
  indent : Int
  outer : List Int
  keyAllowed : Bool
  keys : List (Nat × PossibleKey)

namespace Lexer

-- The longest distance between a key and its colon.
def keyReach : Nat := 1024

def start (text : List Char) : Lexer :=
  ⟨Cursor.start text, #[], 0, -1, [], true, []⟩

def inFlow (l : Lexer) : Bool :=
  l.flowLevel != 0

def push (token : Token) (l : Lexer) : Lexer :=
  { l with tokens := l.tokens.push token }

def insert (place : Nat) (token : Token) (l : Lexer) : Lexer :=
  { l with tokens := l.tokens.insertIdxIfInBounds place token }

def moveTo (c : Cursor) (l : Lexer) : Lexer :=
  { l with cursor := c }

def allowKey (allowed : Bool) (l : Lexer) : Lexer :=
  { l with keyAllowed := allowed }

-- Closes the block collections that are indented further than a column.
def unwind (column : Int) (l : Lexer) : Lexer :=
  if l.inFlow then l
  else
    let closed := (l.indent :: l.outer).takeWhile (column < ·)
    let left := (l.indent :: l.outer).dropWhile (column < ·)
    { l with
      tokens := l.tokens ++ Array.replicate closed.length Token.blockEnd
      indent := left.head?.getD (-1)
      outer := left.tail }

-- Opens a block collection if a column is indented further than the one around it.
def openBlock (column : Nat) (place : Nat) (token : Token) (l : Lexer) : Lexer :=
  if l.indent < column then
    { l with indent := column, outer := l.indent :: l.outer }.insert place token
  else l

-- Forgets the possible key of the current level; a required one may not be forgotten.
def dropKey (l : Lexer) : Option Lexer :=
  match l.keys.lookup l.flowLevel with
  | some key =>
    if key.required then none
    else some { l with keys := l.keys.filter fun (level, _) => level != l.flowLevel }
  | none => some l

-- Forgets possible keys that stand on another line or too far back.
def dropStaleKeys (l : Lexer) : Option Lexer :=
  let stale (key : PossibleKey) : Bool :=
    key.line != l.cursor.line || keyReach < l.cursor.index - key.index
  if l.keys.any fun (_, key) => stale key && key.required then none
  else some { l with keys := l.keys.filter fun (_, key) => !stale key }

-- Remembers the next token as a possible key, where keys are allowed.
def saveKey (l : Lexer) : Option Lexer :=
  if l.keyAllowed then do
    let c := l.cursor
    let required := !l.inFlow && l.indent = c.column
    let l ← l.dropKey
    let key : PossibleKey := ⟨l.tokens.size, required, c.index, c.line, c.column⟩
    return { l with keys := (l.flowLevel, key) :: l.keys }
  else some l

-- Skips spaces, comments and line ends before a token. A line end in block context allows keys.
def skipToToken : Nat → Lexer → Lexer
  | 0, l => l
  | fuel + 1, l =>
    let c := l.cursor
    let c := if c.index = 0 && c.peek = some byteOrderMark then c.skip 1 else c
    let (_, c) := c.span (· = ' ')
    let (_, c) := if c.peek = some '#' then c.span fun _ => true else ([], c)
    match c.lineBreak? with
    | some (_, c) =>
      skipToToken fuel { l with cursor := c, keyAllowed := l.keyAllowed || !l.inFlow }
    | none => l.moveTo c

-- A token of fixed text that no key can be.
def indicator (token : Token) (l : Lexer) : Lexer :=
  (l.moveTo (l.cursor.skip 1)).push token

def documentMark (token : Token) (l : Lexer) : Option Lexer := do
  let l ← (l.unwind (-1)).dropKey
  return ((l.allowKey false).moveTo (l.cursor.skip 3)).push token

def flowStart (token : Token) (l : Lexer) : Option Lexer := do
  let l ← l.saveKey
  return ({ l with flowLevel := l.flowLevel + 1, keyAllowed := true }).indicator token

-- Outside of flow collections nothing can be closed.
def flowEnd (token : Token) (l : Lexer) : Option Lexer := do
  if !l.inFlow then none
  let l ← l.dropKey
  return ({ l with flowLevel := l.flowLevel - 1, keyAllowed := false }).indicator token

def flowEntry (l : Lexer) : Option Lexer := do
  let l ← l.dropKey
  return (l.allowKey true).indicator .flowEntry

def blockEntry (l : Lexer) : Option Lexer := do
  if !l.inFlow && !l.keyAllowed then none
  let l :=
    if l.inFlow then l else l.openBlock l.cursor.column l.tokens.size .blockSequenceStart
  let l ← (l.allowKey true).dropKey
  return l.indicator .blockEntry

-- An explicit key mark.
def keyMark (l : Lexer) : Option Lexer := do
  if !l.inFlow && !l.keyAllowed then none
  let l :=
    if l.inFlow then l else l.openBlock l.cursor.column l.tokens.size .blockMappingStart
  let l ← (l.allowKey (!l.inFlow)).dropKey
  return l.indicator .key

-- A colon makes the possible key of its level a key; without one the key is empty.
def valueMark (l : Lexer) : Option Lexer :=
  match l.keys.lookup l.flowLevel with
  | some key =>
    let l := { l with keys := l.keys.filter fun (level, _) => level != l.flowLevel }
    let l := l.insert key.token .key
    let l := if l.inFlow then l else l.openBlock key.column key.token .blockMappingStart
    some ((l.allowKey false).indicator .value)
  | none => do
    if !l.inFlow && !l.keyAllowed then none
    let l :=
      if l.inFlow then l else l.openBlock l.cursor.column l.tokens.size .blockMappingStart
    let l ← (l.allowKey (!l.inFlow)).dropKey
    return l.indicator .value

def isWordChar (c : Char) : Bool :=
  c.isAlphanum || c = '-' || c = '_'

-- The name of an anchor or alias after its indicator.
def anchorName? (c : Cursor) : Option (String × Cursor) :=
  let (name, c) := (c.skip 1).span isWordChar
  let enders := ['?', ':', ',', ']', '\x7d', '%', '@', '\x60']
  let closed := endsWord c.peek || c.peek.any enders.contains
  if name.isEmpty || !closed then none else some (String.ofList name, c)

def anchorOrAlias (make : String → Token) (l : Lexer) : Option Lexer := do
  let l ← l.saveKey
  let (name, c) ← anchorName? l.cursor
  return ((l.allowKey false).moveTo c).push (make name)

-- Characters of a tag; escapes are left as they are.
def isTagChar (c : Char) : Bool :=
  c.isAlphanum || "-;/?:@&=+$,_.!~*'()[]%".toList.contains c

def tag? (c : Cursor) : Option (Token × Cursor) := do
  let (token, c) ←
    match c.rest with
    | '!' :: '<' :: _ => do
      let (suffix, c) := (c.skip 2).span isTagChar
      if suffix.isEmpty || c.peek ≠ some '>' then none
      pure (Token.tag none (String.ofList suffix), c.skip 1)
    | '!' :: rest =>
      if endsWord rest.head? then pure (Token.tag none "!", c.skip 1)
      else do
        let (word, after) := (c.skip 1).span isWordChar
        let named := (rest.takeWhile fun ch => ch ≠ ' ' && !isBreak ch).contains '!'
        let (handle, c) ←
          if !named then pure ("!", c.skip 1)
          else if after.peek = some '!' then
            pure ("!" ++ String.ofList word ++ "!", after.skip 1)
          else none
        let (suffix, c) := c.span isTagChar
        if suffix.isEmpty then none
        pure (Token.tag (some handle) (String.ofList suffix), c)
    | _ => none
  if endsWord c.peek && c.peek ≠ some '\t' then return (token, c) else none

def tag (l : Lexer) : Option Lexer := do
  let l ← l.saveKey
  let (token, c) ← tag? l.cursor
  return ((l.allowKey false).moveTo c).push token

def blockScalar (fold : Bool) (fuel : Nat) (l : Lexer) : Option Lexer := do
  let l ← (l.allowKey true).dropKey
  let (text, c) ← Block.read fold l.indent fuel (l.cursor.skip 1)
  return (l.moveTo c).push (.scalar (Text.ofChars text) false)

def quotedScalar (double : Bool) (fuel : Nat) (l : Lexer) : Option Lexer := do
  let l ← l.saveKey
  let (text, c) ← Quoted.read double fuel (l.cursor.skip 1)
  return ((l.allowKey false).moveTo c).push (.scalar (String.ofList text) false)

def plainScalar (fuel : Nat) (l : Lexer) : Option Lexer := do
  let l ← l.saveKey
  let (text, c, broke) := Plain.read l.inFlow (l.indent + 1) fuel l.cursor false
  return ((l.allowKey broke).moveTo c).push (.scalar (Text.ofChars text) true)

-- Whether a plain scalar may start with a character that is followed by `next`.
def startsPlain (inFlow : Bool) (ch : Char) (next : Option Char) : Bool :=
  !(isSpace ch || "-?:,[]\x7b\x7d#&*!|>'\"%@\x60".toList.contains ch) ||
    !endsWord next && (ch = '-' || !inFlow && (ch = '?' || ch = ':'))

-- The next token, which starts with `ch`. The fuel bounds the characters that are left.
def token (fuel : Nat) (ch : Char) (l : Lexer) : Option Lexer :=
  let c := l.cursor
  let next := c.rest[1]?
  let wordEnds := endsWord next
  if c.column = 0 && ch = '%' then none
  else if c.column = 0 && c.atSeparator then
    l.documentMark (if ch = '-' then .documentStart else .documentEnd)
  else
    match ch with
    | '[' => l.flowStart .flowSequenceStart
    | '\x7b' => l.flowStart .flowMappingStart
    | ']' => l.flowEnd .flowSequenceEnd
    | '\x7d' => l.flowEnd .flowMappingEnd
    | ',' => l.flowEntry
    | '*' => l.anchorOrAlias .aliasOf
    | '&' => l.anchorOrAlias .anchor
    | '!' => l.tag
    | '\'' => l.quotedScalar false fuel
    | '"' => l.quotedScalar true fuel
    | _ =>
      if ch = '-' && wordEnds then l.blockEntry
      else if ch = '?' && (l.inFlow || wordEnds) then l.keyMark
      else if ch = ':' && (l.inFlow || wordEnds) then l.valueMark
      else if ch = '|' && !l.inFlow then l.blockScalar false fuel
      else if ch = '>' && !l.inFlow then l.blockScalar true fuel
      else if startsPlain l.inFlow ch next then l.plainScalar fuel
      else none

-- Reads tokens to the end of the text. Every token takes at least one character, so the fuel stays
-- above the number of characters that are left.
def run : Nat → Lexer → Option Lexer
  | 0, _ => none
  | fuel + 1, l => do
    let l ← (l.skipToToken fuel).dropStaleKeys
    let l := l.unwind l.cursor.column
    match l.cursor.peek with
    | none => (l.unwind (-1)).dropKey
    | some ch => run fuel (← l.token fuel ch)

end Lexer

-- The tokens of a text; none if it is malformed.
def tokens? (text : List Char) : Option (List Token) :=
  if text.all isAllowed then
    ((Lexer.start text).run (text.length + 2)).map fun l => l.tokens.toList
  else none

end StepFlow.Yaml
