import StepFlow.Require

namespace StepFlow.Bindings

def name (v : Value) (context : String) : Except Fault Name :=
  (Require.identifier v context).mapError fun cause => .declaration (.bindingName cause) .none

-- One binding: a tuple or list of exactly a name and a value.
def pair (index : Nat) (v : Value) : Except Fault (Name × Value) :=
  match v.items? with
  | some [key, value] => do return (← name key s!"bindings[{index}]", value)
  | _ => do .error (.declaration (.binding index (← Fault.met v.quotedForm)) .none)

-- An environment that is being put together, with the number of bindings read so far.
structure Partial where
  count : Nat
  entries : Entries

-- Stores one more binding; the last value of a name wins, at the place of its first one.
def Partial.add (made : Partial) (v : Value) : Except Fault Partial := do
  let (key, value) ← pair made.count v
  return ⟨made.count + 1, made.entries.insert (.ofName key) value⟩

-- What bindings can be read from: a mapping, or any other value with items but a text.
def isSource (bindings : Value) : Bool :=
  match bindings with
  | .bytes _ => false
  | v => v.text?.isNone && Run.isIterable v

-- The environment of a mapping's pairs, or of the pairs that any other value yields.
def partialEnv (bindings : Value) : Run Value := do
  if !isSource bindings then
    Run.fail (.declaration (.bindings bindings.typeName) .none)
  else do
    let pairs : Value :=
      match bindings.entries? with
      | some entries => .list (entries.map fun (k, v) => .tuple [k, v])
      | none => bindings
    let made ← Run.foldItems pairs (fun (made : Partial) v => made.add v) ⟨0, []⟩
    return .dict made.entries

def environment (pairs : List (Name × Value)) : Entries :=
  Entries.ofPairs (pairs.map fun (key, value) => (.ofName key, value))

def keywordEnv (pairs : List (Name × Value)) : Value :=
  .dict (environment pairs)

-- The value of a name in a scope.
def pick (scope v : Value) : Run (Name × Value) := do
  let key ← name v "env name"
  if ← Run.isIn (.ofName key) scope then return (key, ← scope.item (.ofName key))
  else Run.fail (.nameAbsent key.plain)

-- Picks names out of a scope, in order.
def scopeEnv (scope : Value) (names : List Value) : Run Value := do
  return keywordEnv (← names.mapM (pick scope))

end StepFlow.Bindings
