import StepFlow.Reference
import StepFlow.Pipeline
import StepFlow.Require
import StepFlow.Text.Blank

namespace StepFlow

structure Deck where
  steps : List String
  args : List Value

namespace Deck

-- A reference without the blanks around it; there has to be something else in it.
def reference (index : Nat) (v : Value) : Except Unmet String :=
  match (v.text?.map Text.strip).filter fun stripped => !stripped.isEmpty with
  | some stripped => .ok stripped
  | none => do .error (.reference index (← v.quotedForm))

def references (index : Nat) : List Value → Except Unmet (List String)
  | [] => .ok []
  | v :: vs => do
    let one ← reference index v
    let others ← references (index + 1) vs
    return one :: others

-- The references of a mapping under the key `steps`.
def parseSteps (entries : Entries) : Except Unmet (List String) :=
  match entries.get? "steps" with
  | none => .error (.key "steps" "deck")
  | some steps => do references 0 (← Require.list steps "deck.steps" false)

-- The arguments of a mapping under the key `args`; absent or nothing means none.
def parseArgs (entries : Entries) : Except Unmet (List Value) :=
  match entries.get? "args" with
  | none | some .none => .ok []
  | some args => Require.list args "deck.args" true

def parse (payload : Value) : Except Unmet Deck := do
  let entries ← Require.mapping payload "deck"
  let steps ← parseSteps entries
  let args ← parseArgs entries
  return ⟨steps, args⟩

-- A deck as a value.
def value (deck : Deck) : Value :=
  .record .deck [.tuple (deck.steps.map .str), .tuple deck.args] 0

-- The arguments to run with: those given, any value with items, else the deck's own.
def runArgs (deck : Deck) (given : Value) : Run (List Value) :=
  match given with
  | .none => return deck.args
  | v => Run.itemsOf v

-- Runs a deck from its payload, with what resolves its references.
def runWith (host : Host) (resolve : List String → Run (List Callable)) (payload args : Value) :
    Run Value := do
  let deck ← (parse payload).mapError fun cause => Fault.deck (.shape cause)
  let steps ← resolve deck.steps
  let items ← deck.runArgs args
  Run.log .deck s!"running deck with {steps.length} step(s)"
  Pipeline.run host (.list items) (.list (steps.map .callable))

-- Runs a deck from its payload, with the steps of a registry.
def runData (host : Host) (catalogue : Catalogue) (registry : Registry) (payload args : Value) :
    Run Value :=
  runWith host (Reference.resolveAll host catalogue registry) payload args

end Deck

end StepFlow
