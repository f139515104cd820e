import StepFlow.Yaml.Token

namespace StepFlow.Yaml

-- A tag is resolved to its full name; a node without one, or with the tag `!`, has none.
inductive Node where
  | scalar (tag? : Option String) (plain : Bool) (text : String)
  | sequence (tag? : Option String) (items : List Node)
  | mapping (tag? : Option String) (entries : List (Node × Node))

namespace Node

-- What is left of the tokens, and the nodes that anchors name.
structure Reader where
  tokens : List Token
  anchors : List (String × Node)

abbrev Read := StateT Reader Option

-- What may stand in place of a node.
inductive Context where
  | block
  | blockOrIndentless
  | flow
deriving DecidableEq

def empty : Node :=
  .scalar none true ""

def peek : Read (Option Token) := do
  return (← get).tokens.head?

def advance : Read Unit :=
  modify fun r => { r with tokens := r.tokens.tail }

def malformed {α : Type} : Read α :=
  fun _ => none

def expect (token : Token) : Read Unit := do
  if (← peek) = some token then advance else malformed

-- Whether the next token is one of those that end an entry whose node is absent.
def absent (ends : List Token) : Read Bool := do
  match ← peek with
  | some token => return ends.contains token
  | none => return true

def coreTag : String := "tag:yaml.org,2002:"

-- The full name of a tag: `!` names private tags, `!!` those of YAML itself.
def fullTag? (handle? : Option String) (suffix : String) : Option String :=
  match handle? with
  | none => some suffix
  | some "!" => some ("!" ++ suffix)
  | some "!!" => some (coreTag ++ suffix)
  | some _ => none

structure Properties where
  anchor? : Option String
  tag? : Option String

def anchorProperty : Read (Option String) := do
  match ← peek with
  | some (.anchor name) =>
    advance
    return some name
  | _ => return none

def tagProperty : Read (Option String) := do
  match ← peek with
  | some (.tag handle? suffix) =>
    advance
    match fullTag? handle? suffix with
    | some tag => return some tag
    | none => malformed
  | _ => return none

-- An anchor and a tag, in either order.
def properties : Read Properties := do
  match ← anchorProperty with
  | some name => return ⟨some name, ← tagProperty⟩
  | none =>
    let tag? ← tagProperty
    if tag?.isSome then return ⟨← anchorProperty, tag?⟩ else return ⟨none, none⟩

-- Names the node that an anchor stands before; an anchor may be used once only.
def anchored (p : Properties) (node : Node) : Read Node := do
  match p.anchor? with
  | none => return node
  | some name =>
    let r ← get
    if (r.anchors.lookup name).isSome then malformed
    set { r with anchors := (name, node) :: r.anchors }
    return node

mutual

-- One node in its context. The fuel bounds the depth and the number of entries.
def read : Nat → Context → Read Node
  | 0, _ => malformed
  | fuel + 1, context => do
    match ← peek with
    | some (.aliasOf name) =>
      advance
      match (← get).anchors.lookup name with
      | some node => return node
      | none => malformed
    | _ =>
      let p ← properties
      -- the non-specific tag leaves a scalar to be resolved like a plain one
      let tag? := p.tag?.filter (· != "!")
      let block := context ≠ .flow
      let next ← peek
      if next = some .blockEntry && context = .blockOrIndentless then
        anchored p (.sequence tag? (← indentlessEntries fuel))
      else match next with
      | some (.scalar text plain) =>
        advance
        anchored p (.scalar tag? (plain && p.tag?.isNone || p.tag? = some "!") text)
      | some .flowSequenceStart =>
        advance
        anchored p (.sequence tag? (← flowItems fuel true))
      | some .flowMappingStart =>
        advance
        anchored p (.mapping tag? (← flowEntries fuel true))
      | some .blockSequenceStart =>
        if !block then malformed
        advance
        anchored p (.sequence tag? (← blockItems fuel))
      | some .blockMappingStart =>
        if !block then malformed
        advance
        anchored p (.mapping tag? (← blockEntries fuel))
      | _ =>
        if p.anchor?.isNone && p.tag?.isNone then malformed
        anchored p (.scalar tag? (p.tag?.isNone || p.tag? = some "!") "")

-- A node that is absent before one of the given tokens.
def readUnless : Nat → Context → List Token → Read Node
  | 0, _, _ => malformed
  | fuel + 1, context, ends => do
    if ← absent ends then return empty else read fuel context

-- The items of a block sequence, to its end.
def blockItems : Nat → Read (List Node)
  | 0 => malformed
  | fuel + 1 => do
    match ← peek with
    | some .blockEntry =>
      advance
      let item ← readUnless fuel .block [.blockEntry, .blockEnd]
      return item :: (← blockItems fuel)
    | some .blockEnd =>
      advance
      return []
    | _ => malformed

-- The items of a sequence that is indented like the key it belongs to.
def indentlessEntries : Nat → Read (List Node)
  | 0 => malformed
  | fuel + 1 => do
    match ← peek with
    | some .blockEntry =>
      advance
      let item ← readUnless fuel .block [.blockEntry, .key, .value, .blockEnd]
      return item :: (← indentlessEntries fuel)
    | _ => return []

-- The entries of a block mapping, to its end.
def blockEntries : Nat → Read (List (Node × Node))
  | 0 => malformed
  | fuel + 1 => do
    match ← peek with
    | some .key =>
      advance
      let key ← readUnless fuel .blockOrIndentless [.key, .value, .blockEnd]
      let value ←
        if (← peek) = some .value then do
          advance
          readUnless fuel .blockOrIndentless [.key, .value, .blockEnd]
        else pure empty
      return (key, value) :: (← blockEntries fuel)
    | some .blockEnd =>
      advance
      return []
    | _ => malformed

-- The items of a flow sequence. A key makes a mapping of one entry.
def flowItems : Nat → Bool → Read (List Node)
  | 0, _ => malformed
  | fuel + 1, first => do
    if (← peek) = some .flowSequenceEnd then
      advance
      return []
    if !first then expect .flowEntry
    match ← peek with
    | some .flowSequenceEnd =>
      advance
      return []
    | some .key =>
      advance
      let key ← readUnless fuel .flow [.value, .flowEntry, .flowSequenceEnd]
      let value ←
        if (← peek) = some .value then do
          advance
          readUnless fuel .flow [.flowEntry, .flowSequenceEnd]
        else pure empty
      return .mapping none [(key, value)] :: (← flowItems fuel false)
    | _ =>
      let item ← read fuel .flow
      return item :: (← flowItems fuel false)

-- The entries of a flow mapping. A node without a key mark is a key without a value.
def flowEntries : Nat → Bool → Read (List (Node × Node))
  | 0, _ => malformed
  | fuel + 1, first => do
    if (← peek) = some .flowMappingEnd then
      advance
      return []
    if !first then expect .flowEntry
    match ← peek with
    | some .flowMappingEnd =>
      advance
      return []
    | some .key =>
      advance
      let key ← readUnless fuel .flow [.value, .flowEntry, .flowMappingEnd]
      let value ←
        if (← peek) = some .value then do
          advance
          readUnless fuel .flow [.flowEntry, .flowMappingEnd]
        else pure empty
      return (key, value) :: (← flowEntries fuel false)
    | _ =>
      let key ← read fuel .flow
      return (key, empty) :: (← flowEntries fuel false)

end

-- The node of the only document; none inside if the text holds no document.
def document (fuel : Nat) : Read (Option Node) := do
  match ← peek with
  | none => return none
  | some first =>
    if first = .documentStart then advance
    let node ←
      if first = .documentStart && (← absent [.documentStart, .documentEnd]) then pure empty
      else read fuel .block
    if (← peek) = some .documentEnd then skipEnds fuel
    if (← peek).isSome then malformed
    return some node
where
  -- marks of the end of a document, of which there may be several
  skipEnds : Nat → Read Unit
    | 0 => malformed
    | fuel + 1 => do
      if (← peek) = some .documentEnd then
        advance
        skipEnds fuel

-- The document that tokens describe, none inside if they are none; none if they are malformed.
def ofTokens? (tokens : List Token) : Option (Option Node) :=
  ((document (2 * tokens.length + 4)).run ⟨tokens, []⟩).map Prod.fst

end Node

end StepFlow.Yaml
