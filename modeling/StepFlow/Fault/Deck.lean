import StepFlow.Fault.Declaring

namespace StepFlow

open StepFlow.Text

-- Why a module cannot be imported: nothing has the name, or its parent is no package.
inductive ImportFault where
  | absent (module : String)
  | noPackage (module parent : String)
deriving DecidableEq, Repr

def ImportFault.message : ImportFault → String
  | .absent module => s!"No module named {quoted module}"
  | .noPackage module parent =>
    s!"No module named {quoted module}; {quoted parent} is not a package"

-- Decks that cannot be loaded or resolved.
inductive DeckFault where
  | shape (cause : Unmet)
  | unregistered (ref : String) (supported : List String)
  | moduleName (ref module : String)
  | notImported (ref module : String) (cause : ImportFault)
  | noAttribute (ref module path : String)
  | notCallable (ref typeName : String)
  | missingFile (path : String)
  | malformed (path : String)
  | empty (path : String)
  | notMapping
deriving DecidableEq, Repr

def DeckFault.message : DeckFault → String
  | .shape cause => cause.message
  | .unregistered ref supported =>
    let names := if supported.isEmpty then "(none)" else String.intercalate ", " supported
    s!"Step '{ref}' is not registered. Use one of: {names}, or a 'module:attribute' reference."
  | .moduleName ref module =>
    s!"Step '{ref}' must name an absolute module before ':', got '{module}'."
  | .notImported ref module cause =>
    s!"Cannot import module '{module}' for step '{ref}': {cause.message}"
  | .noAttribute ref module path => s!"Module '{module}' has no attribute '{path}' (step '{ref}')."
  | .notCallable ref typeName => s!"Step '{ref}' resolved to a non-callable {typeName}."
  | .missingFile path => s!"Deck file not found: {path}"
  | .malformed path => s!"Failed to parse YAML deck: {path}"
  | .empty path => s!"Deck is empty: {path}"
  | .notMapping => "deck must be a mapping."

end StepFlow
