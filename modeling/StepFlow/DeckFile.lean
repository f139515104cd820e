import StepFlow.Deck
import StepFlow.World

namespace StepFlow

namespace DeckFile

-- The payload of a deck that was read: what is no YAML, or nothing, or no mapping is none.
def payloadOf (shown : String) : Option Value → Except Fault Value
  | none => .error (.deck (.malformed shown))
  | some .none => .error (.deck (.empty shown))
  | some (.dict entries) => .ok (.dict entries)
  | some _ => .error (.deck .notMapping)

-- The payload of the deck at a path.
def load (world : World) (path : String) : Except Fault Value :=
  let shown := Path.shown path
  match world.lookup path with
  | .missing => .error (.deck (.missingFile shown))
  | .tooLong => .error (.pathTooLong shown)
  | .directory => .error (.isDirectory shown)
  | .file bytes => do
    payloadOf shown (← world.yaml.read (.file (.ofBytes bytes)))

-- Runs the deck at a path, with what resolves its references.
def runWith (world : World) (host : Host) (resolve : List String → Run (List Callable))
    (path : String) (args : Value) : Run Value := do
  let payload ← load world path
  Deck.runWith host resolve payload args

def run (world : World) (host : Host) (registry : Registry) (path : String) (args : Value) :
    Run Value :=
  runWith world host (Reference.resolveAll host world.catalogue registry) path args

end DeckFile

end StepFlow
