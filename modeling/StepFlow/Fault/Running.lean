import StepFlow.StepKind

namespace StepFlow

-- Arguments or steps of a run that do not have the required shape.
inductive ShapeFault where
  | stepsNotList (typeName : String)
  | noSteps
  | stepNotCallable (index : Nat) (shown : String)
  | argumentsNotList (firstStep typeName : String)
deriving DecidableEq, Repr

def ShapeFault.message : ShapeFault → String
  | .stepsNotList typeName => s!"steps must be a list of step callables, got {typeName}."
  | .noSteps => "steps must contain at least an input step."
  | .stepNotCallable index shown => s!"steps[{index}] must be callable, got {shown}."
  | .argumentsNotList _ typeName => s!"Input must be a list of arguments, got {typeName}."

-- What a step does that breaks its contract.
inductive Breach where
  | expectsEnvironment
  | returnsNoEnvironment
deriving DecidableEq, Repr

end StepFlow
