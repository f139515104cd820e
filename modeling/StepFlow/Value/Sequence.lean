import StepFlow.Value.Mapping
import StepFlow.Value.Applied

namespace StepFlow.Value

-- What iteration over a value yields: items, the keys of a mapping, the characters of a text,
-- the numbers of a byte string, the kinds of steps, the parameters of a type in one.
def iterate? (v : Value) : Option (List Value) :=
  match v with
  | .list items | .tuple items | .set items => some items
  | .dict entries | .view _ entries => some (Entries.keys entries)
  | .bytes bs => some (bs.map fun b => .int b.toNat)
  | .callable (.native (.type .stepKind)) => some (StepKind.all.map .kind)
  | .callable (.native (.type .enumeration)) => some []
  | .callable (.native (.synonym s)) =>
    if s.isFilled then some [.callable (.native (.synonym s.unpacked))] else Option.none
  | v => v.text?.map fun s => (Text.letters s).map .str

-- Whether `needle` is part of a container: an item, a key, or a piece of a text.
def isIn (needle container : Value) : Except Fault Bool :=
  match container with
  | .dict entries | .view _ entries => do
    needle.hashed
    return Entries.contains entries needle
  | .set items => do
    needle.hashed
    return items.any fun item => item.sameKey needle
  | .list items | .tuple items => .ok (items.any fun item => item.sameKey needle)
  | .bytes _ => .error (.type (.byteMembership needle.operandType))
  | .callable (.native (.type .stepKind)) | .callable (.native (.type .enumeration)) =>
    match needle with
    | .kind _ => .ok true
    | _ => .error (.raised .type ("unsupported operand type(s) for 'in': " ++
      s!"'{needle.operandType}' and '{container.operandType}'"))
  | v =>
    match v.text?, needle.text? with
    | some s, some piece => .ok (s.contains piece)
    | some _, Option.none => .error (.raised .type
        s!"'in <string>' requires string as left operand, not {needle.operandType}")
    | Option.none, _ =>
      match v.iterate? with
      | some items => .ok (items.any fun item => item.sameKey needle)
      | Option.none => .error (.type (.notContainer v.operandType))

def index? : Value → Option Int
  | .int n => some n
  | .bool b => some (if b then 1 else 0)
  | _ => Option.none

-- Indices are machine words of 64 bits with a sign; no other number can be one.
def fitsIndex (n : Int) : Bool :=
  -0x8000000000000000 ≤ n && n < 0x8000000000000000

-- The item at an index; a negative one counts from the end.
def itemAt? {α : Type} (items : List α) (n : Int) : Option α :=
  if 0 ≤ n then items[n.toNat]?
  else if 0 ≤ n + items.length then items[(n + items.length).toNat]?
  else Option.none

def indexed {α : Type} (sequence : String) (items : List α) (wrap : α → Value) (key : Value)
    (badIndex : TypeFault) : Except Fault Value :=
  match key.index? with
  | Option.none => .error (.type badIndex)
  | some n =>
    match itemAt? items n with
    | some item => .ok (wrap item)
    | Option.none => .error (if fitsIndex n then .indexRange sequence else .indexSize)

-- The kind of step that a key names.
def kindItem (key : Value) : Except Fault Value := do
  key.hashed
  match key.text?.bind fun name => StepKind.all.find? fun kind => kind.label = name with
  | some found => return .kind found
  | Option.none => .error (.keyAbsent key.shown)

-- The item under a key of a mapping or at an index of a sequence.
def item (container key : Value) : Except Fault Value :=
  match container with
  | .dict entries | .view _ entries => do
    key.hashed
    match Entries.find? entries key with
    | some v => return v
    | Option.none => .error (.keyAbsent key.shown)
  | .list items => indexed "list" items id key (.sequenceIndex "list" key.operandType)
  | .tuple items => indexed "tuple" items id key (.sequenceIndex "tuple" key.operandType)
  | .bytes bs => indexed "bytes" bs (fun b => .int b.toNat) key (.byteIndex key.operandType)
  | .callable (.native (.type .stepKind)) => kindItem key
  | .callable (.native (.type .enumeration)) => do
    key.hashed
    .error (.keyAbsent key.shown)
  | v =>
    match v.text? with
    | some s =>
      indexed "string" (Text.codes s) (fun code => .str (Text.letter code)) key
        (.textIndex key.operandType)
    | Option.none => v.parametrized key

-- A mapping with one item stored; only mutable mappings and lists take it.
def setItem (container key value : Value) : Except Fault Value :=
  match container with
  | .dict entries => do
    key.hashed
    return .dict (Entries.insert entries key value)
  | .list items =>
    match key.index? with
    | Option.none => .error (.type (.sequenceIndex "list" key.operandType))
    | some n =>
      let i := if 0 ≤ n then n else n + items.length
      if 0 ≤ i && i < items.length then .ok (.list (items.set i.toNat value))
      else .error (.raised .index "list assignment index out of range")
  | v => .error (.type (.noItemAssignment v.operandType))

end StepFlow.Value
