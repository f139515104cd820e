namespace StepFlow

-- The three contracts: an input step makes an environment from raw arguments, an intermediate
-- step adds to the environment, an output step makes any value from it.
inductive StepKind where
  | input
  | intermediate
  | output
deriving DecidableEq, Repr

namespace StepKind

def word : StepKind → String
  | .input => "input"
  | .intermediate => "intermediate"
  | .output => "output"

-- The name that a kind has among the kinds.
def label : StepKind → String
  | .input => "INPUT"
  | .intermediate => "INTERMEDIATE"
  | .output => "OUTPUT"

def all : List StepKind :=
  [.input, .intermediate, .output]

-- The kind that a word names.
def ofWord? (word : String) : Option StepKind :=
  all.find? fun kind => kind.word = word

end StepKind

end StepFlow
