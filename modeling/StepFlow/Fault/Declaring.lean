import StepFlow.Fault.Operation
import StepFlow.Name

namespace StepFlow

open StepFlow.Text

-- Requirements on configuration data and declarations that a value does not meet. Shown values
-- are in quoted form. A complaint about a number that is too long to be shown is `longNumber`.
inductive Unmet where
  | mapping (context : String)
  | key (name context : String)
  | list (context typeName : String)
  | nonEmptyList (context : String)
  | text (context shown : String)
  | identifier (context shown : String)
  | distinct (context name : String)
  | variadicKind (context item : String)
  | variadicLast (context item : String)
  | reference (index : Nat) (shown : String)
  | longNumber
deriving DecidableEq, Repr

def Unmet.message : Unmet → String
  | .mapping context => s!"{context} must be a mapping."
  | .key name context => s!"Missing required key '{name}' in {context}."
  | .list context typeName => s!"{context} must be a list, got {typeName}."
  | .nonEmptyList context => s!"{context} must be a non-empty list."
  | .text context shown => s!"{context} must be a string name, got {shown}."
  | .identifier context shown => s!"{context} must be a valid identifier, got {shown}."
  | .distinct context name => s!"{context} declares '{name}' more than once."
  | .variadicKind context item =>
    s!"{context}: variadic '{item}' is only allowed on input steps."
  | .variadicLast context item => s!"{context}: variadic '{item}' must be the last parameter."
  | .reference index shown =>
    s!"steps[{index}] must be a non-empty step reference string, got {shown}."
  | .longNumber =>
    s!"Exceeds the limit ({digitLimit} digits) for integer string conversion; " ++
      "use sys.set_int_max_str_digits() to increase the limit"

-- Why a signature does not take a number of positional arguments.
inductive Unbound where
  | tooMany
  | missing (name : Name)
deriving DecidableEq, Repr

def Unbound.message : Unbound → String
  | .tooMany => "too many positional arguments"
  | .missing name => s!"missing a required argument: {name.quoted}"

-- How many positional arguments a function takes.
inductive Expected where
  | exactly (n : Nat)
  | atLeast (n : Nat)
  | between (low high : Nat)
deriving DecidableEq, Repr

def Expected.text : Expected → String
  | .exactly n => toString n
  | .atLeast n => s!"at least {n}"
  | .between low high => s!"from {low} to {high}"

-- A fixed count of one is singular.
def Expected.plural : Expected → Bool
  | .exactly n => n != 1
  | _ => true

-- Names in quotes, joined as in a sentence.
def enumerate : List String → String
  | [] => ""
  | [a] => quoted a
  | [a, b] => s!"{quoted a} and {quoted b}"
  | names =>
    String.intercalate ", " (names.dropLast.map quoted) ++ ", and " ++
      quoted (names.getLast?.getD "")

-- A wrong number of arguments: of a function's own, or of an input step, which checks before it
-- calls its body.
inductive ArityFault where
  | tooMany (function : String) (expected : Expected) (given : Nat)
  | missing (function : String) (names : List String)
  | missingKeywordOnly (function : String) (names : List String)
  | inputStep (step : String) (expected : Expected) (given : Nat)
deriving DecidableEq, Repr

def ArityFault.message : ArityFault → String
  | .tooMany function expected given =>
    let s := if expected.plural then "s" else ""
    let verb := if given = 1 then "was" else "were"
    s!"{function}() takes {expected.text} positional argument{s} but {given} {verb} given"
  | .missing function names =>
    let s := if names.length = 1 then "" else "s"
    s!"{function}() missing {names.length} required positional argument{s}: {enumerate names}"
  | .missingKeywordOnly function names =>
    let s := if names.length = 1 then "" else "s"
    s!"{function}() missing {names.length} required keyword-only argument{s}: {enumerate names}"
  | .inputStep step expected given =>
    s!"{step}() takes {expected.text} positional argument(s) but {given} were given"

-- Malformed declarations of steps and of partial environments.
inductive DeclarationFault where
  | name (shown : String)
  | params (kind : StepKind) (step : String) (cause : Unmet)
  | bodyNotCallable (step shown : String)
  | bodyArity (step count : String) (cause : Unbound)
  | bodyCount (step count typeName : String)
  | notFunction (kind : StepKind) (shown : String)
  | noSignature (step : String)
  | notPositional (kind : StepKind) (step param : String)
  | bindings (typeName : String)
  | binding (index : Nat) (shown : String)
  | bindingName (cause : Unmet)
deriving DecidableEq, Repr

def DeclarationFault.message : DeclarationFault → String
  | .name shown => s!"Failed to conform step name: expected a non-empty string, got {shown}."
  | .params kind step cause =>
    s!"Failed to conform declaration of {kind.word} step '{step}': {cause.message}"
  | .bodyNotCallable step shown => s!"Step '{step}' body must be callable, got {shown}."
  | .bodyArity step count cause =>
    s!"Step '{step}' body cannot accept its {count} declared parameter(s): {cause.message}"
  | .bodyCount step count typeName =>
    s!"Step '{step}' body cannot accept its {count} declared parameter(s): " ++
      s!"can't multiply sequence by non-int of type '{typeName}'"
  | .notFunction kind shown => s!"@{kind.word}_step expects a function, got {shown}."
  | .noSignature step => s!"Cannot read the signature of step '{step}'."
  | .notPositional kind step param =>
    s!"Failed to conform declaration of {kind.word} step '{step}': " ++
      s!"parameter '{param}' must be positional."
  | .bindings typeName =>
    s!"bindings must be a mapping or a sequence of (name, value) pairs, got {typeName}."
  | .binding index shown => s!"bindings[{index}] must be a (name, value) pair, got {shown}."
  | .bindingName cause => cause.message

end StepFlow
