import StepFlow.Fault.Deck
import StepFlow.Fault.Running
import StepFlow.Text.Utf8
import StepFlow.Value.Display

namespace StepFlow

open StepFlow.Text

-- Where an attribute is looked for. A `bare` place leaves itself out of the message.
inductive Holder where
  | object (typeName : String)
  | type (name : String)
  | bare
deriving DecidableEq, Repr

-- That a place has no attribute of a name.
def Holder.lacks (holder : Holder) (field : String) : String :=
  match holder with
  | .object typeName => s!"'{typeName}' object has no attribute '{field}'"
  | .type name => s!"type object '{name}' has no attribute '{field}'"
  | .bare => field

-- A fault that blames a step holds the step's name as it was given; `declaration` holds the value
-- nothing if it blames none.
inductive Fault where
  | contract (breach : Breach) (kind : StepKind) (step : Value) (typeName : String)
  | shape (cause : ShapeFault)
  | declaration (cause : DeclarationFault) (step : Value)
  | deck (cause : DeckFault)
  | unmet (cause : Unmet)
  | arity (cause : ArityFault)
  | type (cause : TypeFault)
  | value (cause : ValueFault)
  | zeroDivisor (cause : ZeroDivisor)
  | tooLarge (cause : TooLarge)
  | keyAbsent (shown : String)
  | indexRange (sequence : String)
  | indexSize
  | nameAbsent (name : String)
  | attributeAbsent (holder : Holder) (field : String)
  | recursion
  | memory
  | undecodable (bad : Undecodable)
  | isDirectory (path : String)
  | pathTooLong (path : String)
  | exit (code : Nat)
  | raised (category : Category) (message : String)

namespace Fault

def category : Fault → Category
  | .contract .. => .contract
  | .shape _ => .argumentShape
  | .declaration .. => .declaration
  | .deck _ => .deck
  | .unmet _ | .value _ => .value
  | .arity _ | .type _ => .type
  | .zeroDivisor _ => .zeroDivision
  | .tooLarge _ => .overflow
  | .keyAbsent _ => .key
  | .indexRange _ | .indexSize => .index
  | .nameAbsent _ => .name
  | .attributeAbsent .. => .attribute
  | .recursion => .recursion
  | .memory => .memory
  | .undecodable _ => .decoding
  | .isDirectory _ => .directory
  | .pathTooLong _ => .os
  | .exit _ => .exit
  | .raised category _ => category

def undecodableMessage (bad : Undecodable) : String :=
  let place :=
    if bad.length = 1 then s!"byte 0x{hex 2 bad.lead.toNat} in position {bad.position}"
    else s!"bytes in position {bad.position}-{bad.position + bad.length - 1}"
  let reason :=
    match bad.cause with
    | .invalidStart => "invalid start byte"
    | .invalidContinuation => "invalid continuation byte"
    | .unexpectedEnd => "unexpected end of data"
  s!"'utf-8' codec can't decode {place}: {reason}"

def message : Fault → String
  | .contract .expectsEnvironment kind step typeName =>
    s!"{kind.word} step {step.plain} expects an environment, got {typeName}."
  | .contract .returnsNoEnvironment kind step typeName =>
    s!"{kind.word} step {step.plain} must return an environment, got {typeName}."
  | .shape cause => cause.message
  | .declaration cause _ => cause.message
  | .deck cause => cause.message
  | .unmet cause => cause.message
  | .arity cause => cause.message
  | .type cause => cause.message
  | .value cause => cause.message
  | .zeroDivisor cause => cause.message
  | .tooLarge cause => cause.message
  | .keyAbsent shown => shown
  | .indexRange sequence =>
    if sequence = "bytes" then "index out of range" else s!"{sequence} index out of range"
  | .indexSize => TooLarge.index.message
  | .nameAbsent name => s!"name '{name}' is not defined"
  | .attributeAbsent holder field => holder.lacks field
  | .recursion => "maximum recursion depth exceeded"
  | .memory => ""
  | .undecodable bad => undecodableMessage bad
  | .isDirectory path => s!"[Errno 21] Is a directory: {quoted path}"
  | .pathTooLong path => s!"[Errno 36] File name too long: {quoted path}"
  | .exit code => toString code
  | .raised .key message => quoted message
  | .raised _ message => message

-- A requirement that is not met is a fault.
def met {α : Type} (outcome : Except Unmet α) : Except Fault α :=
  outcome.mapError .unmet

-- The name of the step that a contract, shape or declaration error blames, or nothing.
def stepName : Fault → Value
  | .contract _ _ step _ | .declaration _ step => step
  | .shape (.argumentsNotList step _) => .str step
  | _ => .none

def stepKind? : Fault → Option StepKind
  | .contract _ kind _ _ => some kind
  | .shape (.argumentsNotList ..) => some .input
  | _ => none

end Fault

end StepFlow
