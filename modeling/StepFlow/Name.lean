import StepFlow.StepKind
import StepFlow.Text.Quoted

namespace StepFlow

inductive Name where
  | text (s : String)
  | kind (k : StepKind)
deriving DecidableEq, Repr

instance : Coe String Name where
  coe := .text

-- A kind as it is shown in a sentence.
def StepKind.plain (k : StepKind) : String :=
  s!"StepKind.{k.label}"

def StepKind.quoted (k : StepKind) : String :=
  s!"<{k.plain}: {Text.quoted k.word}>"

namespace Name

-- The text that a name is.
def word : Name → String
  | .text s => s
  | .kind k => k.word

-- The name as it stands in a sentence.
def plain : Name → String
  | .text s => s
  | .kind k => k.plain

def quoted : Name → String
  | .text s => Text.quoted s
  | .kind k => k.quoted

end Name

end StepFlow
