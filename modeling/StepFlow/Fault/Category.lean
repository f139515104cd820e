namespace StepFlow

-- Classes of errors. `ended` is met where a generator has no further item, and `exit` is the end of
-- a program that is run inside another one.
inductive Category where
  | pipeline
  | contract
  | argumentShape
  | declaration
  | deck
  | value
  | type
  | key
  | index
  | attribute
  | name
  | runtime
  | overflow
  | zeroDivision
  | recursion
  | memory
  | decoding
  | encoding
  | directory
  | os
  | frozen
  | ended
  | exit
deriving DecidableEq, Repr

namespace Category

-- The errors of the library itself, as opposed to those of step bodies and of the system.
def isPipeline : Category → Bool
  | .pipeline | .contract | .argumentShape | .declaration | .deck => true
  | _ => false

-- Whether the errors of a class are also errors of another one.
def isOf (c base : Category) : Bool :=
  c = base || c = .argumentShape && base = .contract || c.isPipeline && base = .pipeline ||
    c = .frozen && base = .attribute

-- The name that a class of errors is shown under.
def className : Category → String
  | .pipeline => "PipelineError"
  | .contract => "ContractViolation"
  | .argumentShape => "ArgumentShapeError"
  | .declaration => "DeclarationSyntaxError"
  | .deck => "DeckError"
  | .value => "ValueError"
  | .type => "TypeError"
  | .key => "KeyError"
  | .index => "IndexError"
  | .attribute => "AttributeError"
  | .name => "NameError"
  | .runtime => "RuntimeError"
  | .overflow => "OverflowError"
  | .zeroDivision => "ZeroDivisionError"
  | .recursion => "RecursionError"
  | .memory => "MemoryError"
  | .decoding => "UnicodeDecodeError"
  | .encoding => "UnicodeEncodeError"
  | .directory => "IsADirectoryError"
  | .os => "OSError"
  | .frozen => "FrozenInstanceError"
  | .ended => "StopIteration"
  | .exit => "SystemExit"

end Category

end StepFlow
