import StepFlow.Yaml.Scalar
import StepFlow.Value.Mapping

namespace StepFlow.Yaml

-- A fault with the number of levels it stands below the place where it is looked for.
structure Placed where
  depth : Nat
  fault : Fault

-- The outcome of a part of a document.
abbrev Made (α : Type) := Except Placed α

namespace Made

variable {α β : Type}

def fail (depth : Nat) (fault : Fault) : Made α :=
  .error ⟨depth, fault⟩

-- The outcome as it is seen from one level further out.
def below (made : Made α) : Made α :=
  made.mapError fun placed => ⟨placed.depth + 1, placed.fault⟩

-- Two parts that follow each other. Both are made; of two faults the outer one is kept, and the
-- first one of one level.
def both (a : Made α) (b : Made β) : Made (α × β) :=
  match a, b with
  | .ok a, .ok b => .ok (a, b)
  | .error p, .error q => .error (if q.depth < p.depth then q else p)
  | .error p, .ok _ => .error p
  | .ok _, .error q => .error q

end Made

-- How a scalar with a tag is read.
def taggedScalar (tag : String) (text : String) : Except Fault Value :=
  let plainOf (accepts : Value → Bool) : Except Fault Value := do
    let v ← Scalar.plain text
    if accepts v then return v else .error .malformed
  if tag = Node.coreTag ++ "str" then .ok (.str text)
  else if tag = Node.coreTag ++ "null" then .ok .none
  else if tag = Node.coreTag ++ "bool" then plainOf fun v => v matches .bool _
  else if tag = Node.coreTag ++ "int" then plainOf fun v => v matches .int _
  else if tag = Node.coreTag ++ "float" then
    plainOf (fun v => v matches .float _ | .nan _ | .int _) |>.map fun
      | .int n => .float (Numeric.decimal (n < 0) n.natAbs 0)
      | v => v
  else .error .malformed

def scalarValue (tag? : Option String) (plain : Bool) (text : String) : Made Value :=
  let value :=
    match tag? with
    | some tag => taggedScalar tag text
    | none => if plain then Scalar.plain text else .ok (.str text)
  value.mapError fun fault => ⟨0, fault⟩

-- The tags of collections. A collection with the tag of the other kind is only found out when its
-- items are made.
def isCollectionTag (tag : String) : Bool :=
  tag = Node.coreTag ++ "seq" || tag = Node.coreTag ++ "map"

-- A collection whose tag has to be `name`, if it has one.
def collection {α : Type} (tag? : Option String) (name : String) (items : Made α) : Made α :=
  match tag? with
  | none => items.below
  | some tag =>
    if tag = Node.coreTag ++ name then items.below
    else if isCollectionTag tag then Made.fail 1 .malformed
    else Made.fail 0 .malformed

def isMergeKey : Node → Bool
  | .scalar none true "<<" => true
  | _ => false

mutual

-- Whether only mappings and sequences of mappings stand under merge keys.
def Node.isMergeable : Node → Bool
  | .mapping _ entries => entriesMergeable entries
  | _ => false
termination_by structural node => node

def entriesMergeable : List (Node × Node) → Bool
  | [] => true
  | (key, item) :: entries =>
    (!isMergeKey key ||
      match item with
      | .mapping _ found => entriesMergeable found
      | .sequence _ items => itemsMergeable items
      | .scalar .. => false) && entriesMergeable entries
termination_by structural entries => entries

def itemsMergeable : List Node → Bool
  | [] => true
  | item :: items => item.isMergeable && itemsMergeable items
termination_by structural items => items

end

mutual

def Node.value : Node → Made Value
  | .scalar tag? plain text => scalarValue tag? plain text
  | .sequence tag? items => (collection tag? "seq" (itemValues items)).map .list
  | .mapping tag? entries =>
    let made :=
      if entriesMergeable entries then (mergeValues entries).both (entryValues entries)
      else Made.fail 0 .malformed
    (collection tag? "map" made).map fun (merged, own) => .dict (Entries.ofPairs (merged ++ own))
termination_by structural node => node

def itemValues : List Node → Made (List Value)
  | [] => .ok []
  | item :: items => (item.value.both (itemValues items)).map fun (v, vs) => v :: vs
termination_by structural items => items

-- The entries of a mapping, those under merge keys left out. A key is made before its value, and
-- a collection is none. The mark `=` is a text as a key.
def entryValues : List (Node × Node) → Made (List (Value × Value))
  | [] => .ok []
  | (key, item) :: entries =>
    if isMergeKey key then entryValues entries
    else
      let key : Made Value :=
        match key with
        | .scalar none true "=" => .ok (.str "=")
        | .scalar tag? plain text => scalarValue tag? plain text
        | _ => Made.fail 0 .malformed
      ((key.both item.value).both (entryValues entries)).map fun (entry, more) => entry :: more
termination_by structural entries => entries

-- The entries of the mappings under merge keys.
def mergeValues : List (Node × Node) → Made (List (Value × Value))
  | [] => .ok []
  | (key, item) :: entries =>
    if isMergeKey key then
      let found : Made (List (Value × Value)) :=
        match item with
        | .mapping _ found =>
          ((mergeValues found).both (entryValues found)).map fun (inner, own) => inner ++ own
        | .sequence _ items => mergeItems items
        | .scalar .. => Made.fail 0 .malformed
      (found.both (mergeValues entries)).map fun (found, others) => found ++ others
    else mergeValues entries
termination_by structural entries => entries

-- The entries of the mappings of a sequence, the first mapping last so that it wins.
def mergeItems : List Node → Made (List (Value × Value))
  | [] => .ok []
  | item :: items =>
    let found : Made (List (Value × Value)) :=
      match item with
      | .mapping _ found =>
        ((mergeValues found).both (entryValues found)).map fun (inner, own) => inner ++ own
      | _ => Made.fail 0 .malformed
    ((mergeItems items).both found).map fun (others, found) => others ++ found
termination_by structural items => items

end

-- The value of a text that holds at most one document; an empty text has the value nothing.
def load (text : List Char) : Except Fault Value :=
  match (tokens? text).bind Node.ofTokens? with
  | none => .error .malformed
  | some none => .ok .none
  | some (some node) => node.value.mapError Placed.fault

end StepFlow.Yaml
