import StepFlow.Native.Host

namespace StepFlow.Program

-- A text as it is written: what has no character is escaped.
def written (text : String) : String :=
  String.join ((Text.codes text).map fun code =>
    if Text.isHalf code then Text.escapedCode code else String.singleton (Char.ofNat code))

-- What a path leads to. Errors other than that nothing is there are passed on.
def target (path : String) : IO PathTarget := do
  try
    return .file (← IO.FS.readBinFile (written (Path.shown path))).toList
  catch
    | .noFileOrDirectory .. => return .missing
    | .inappropriateType none .. => return .directory
    | .inappropriateType (some _) .. => return .missing
    | e => throw e

-- The world that a command line is carried out in: of all paths only that of its deck leads
-- anywhere.
def world (words : List Value) : IO World := do
  match Command.deck? World.bare.yaml words with
  | none => return .bare
  | some path => do
    let found ← target path
    return { World.bare with lookup := fun other => if other = path then found else .missing }

-- Writes what a command line has written, and ends as it ended.
def finish (reached : Reached Nat) : IO UInt32 := do
  let transcript := Command.Transcript.ofEvents reached.events
  (← IO.getStdout).putStr (written transcript.stdout)
  (← IO.getStderr).putStr (written transcript.stderr)
  match Command.exitCode reached.outcome with
  | .ok code => return UInt32.ofNat code
  | .error fault =>
    (← IO.getStderr).putStr (written s!"{fault.message}\n")
    return 1

end StepFlow.Program

def main (arguments : List String) : IO UInt32 := do
  let words := arguments.map fun word => StepFlow.Value.str (StepFlow.Text.ofChars word.toList)
  let world ← StepFlow.Program.world words
  StepFlow.Program.finish
    (StepFlow.Command.execute world world.host words StepFlow.Store.start)
