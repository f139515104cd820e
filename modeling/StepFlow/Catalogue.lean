import StepFlow.Call
import StepFlow.Run.Attribute
import StepFlow.Text.Split

namespace StepFlow

-- What a name leads to.
inductive Target where
  | value (v : Value)
  | module (name : String)

-- A module comes from a file, where it may be documented, or is made while the program runs.
inductive Origin where
  | file (documented : Bool)
  | memory
deriving DecidableEq, Repr

structure Module where
  name : String
  isPackage : Bool
  origin : Origin
  attributes : List (String × Target)

-- The modules that can be imported, which are those of the library and further ones that hide them,
-- and others that are only found as attributes of them.
structure Catalogue where
  further : List Module
  own : List Module
  hidden : List Module

namespace Target

def typeName : Target → String
  | .value v => v.typeName
  | .module _ => "module"

def callable? : Target → Option Callable
  | .value v => v.callable?
  | .module _ => none

end Target

namespace Module

-- The attributes that every module has.
def common (m : Module) : List (String × Target) :=
  let text : Target := .value (.str "")
  let thing (typeName : String) : Target := .value (Attribute.thing typeName)
  let nothing : Target := .value .none
  let always :=
    [("__name__", .value (.str m.name)), ("__dict__", .value (.dict [])),
      ("__annotations__", .value (.dict []))]
  match m.origin with
  | .file documented =>
    always ++
      [("__doc__", if documented then text else nothing), ("__package__", text),
        ("__file__", text), ("__cached__", text), ("__loader__", thing "SourceFileLoader"),
        ("__spec__", thing "ModuleSpec"), ("__builtins__", .value (.dict []))] ++
      (if m.isPackage then [("__path__", .value (.list []))] else [])
  | .memory =>
    always ++
      [("__doc__", nothing), ("__package__", nothing), ("__loader__", nothing),
        ("__spec__", nothing)]

def attribute? (m : Module) (name : String) : Option Target :=
  m.attributes.lookup name <|> m.common.lookup name <|>
    (Attribute.common? (Attribute.thing "module") name).map .value

-- Whether a new module can be given an attribute.
def takeAttribute (name : String) (v : Value) : Except Fault Unit :=
  if name = "__dict__" then .error (.raised .attribute "readonly attribute")
  else if name = "__class__" then
    .error (.raised .type (if v.isType
      then "__class__ assignment only supported for mutable types or ModuleType subclasses"
      else s!"__class__ must be set to a class, not '{v.operandType}' object"))
  else .ok ()

-- What looking for an attribute comes to. Only that it is missing is passed over; any other fault
-- in finding it is a fault of the search.
def whereFound (search : Run Value) : Run (Option Target) := do
  match ← Run.attempt search with
  | .ok found => return some (.value found)
  | .error fault => if fault.category.isOf .attribute then return none else Run.fail fault

-- What a module has under a name. A module that can be asked for more is asked for what it lacks.
def find (host : Host) (m : Module) (name : String) : Run (Option Target) :=
  match m.attribute? name, m.attributes.lookup "__getattr__" with
  | some found, _ => return some found
  | none, some (.value more) => whereFound (more.call host [.str name])
  | none, _ => return none

end Module

namespace Catalogue

-- The module that is imported under a name.
def find? (catalogue : Catalogue) (name : String) : Option Module :=
  (catalogue.further ++ catalogue.own).find? fun m => m.name = name

-- The module that an attribute of the library refers to.
def referred? (catalogue : Catalogue) (name : String) : Option Module :=
  (catalogue.own ++ catalogue.hidden).find? fun m => m.name = name

def dotted (parts : List String) : String :=
  String.intercalate "." parts

-- Goes through the places where a package is looked for the modules in it. There are none in them.
def searchPlaces : Target → Run Unit
  | .module _ | .value .none => return ()
  | .value places => do
    let _ ← Run.itemsOf places

-- Imports the module of the given parts, last part first. A module is found by its full name, or
-- not at all; the fault names the first module on the way that is missing.
def importParts (host : Host) (catalogue : Catalogue) :
    List String → Run (Except ImportFault Module)
  | [] => return .error (.absent "")
  | last :: parents =>
    let name := dotted (last :: parents).reverse
    match catalogue.find? name, parents with
    | some m, _ => return .ok m
    | none, [] => return .error (.absent name)
    | none, parents => do
      match ← catalogue.importParts host parents with
      | .error fault => return .error fault
      | .ok parent =>
        match ← parent.find host "__path__" with
        | none => return .error (.noPackage name parent.name)
        | some places => do
          searchPlaces places
          return .error (.absent name)

def importModule (host : Host) (catalogue : Catalogue) (name : String) :
    Run (Except ImportFault Module) :=
  catalogue.importParts host (Text.split '.' name).reverse

-- Follows attributes one after the other.
def follow? (host : Host) (catalogue : Catalogue) (target : Target) :
    List String → Run (Option Target)
  | [] => return some target
  | name :: names => do
    let found? ←
      match target with
      | .value v => Module.whereFound (v.getAttribute name)
      | .module other =>
        match catalogue.referred? other with
        | none => pure none
        | some m => m.find host name
    match found? with
    | none => return none
    | some found => catalogue.follow? host found names

-- Follows attributes from a module.
def followFrom? (host : Host) (catalogue : Catalogue) (m : Module) :
    List String → Run (Option Target)
  | [] => return some (.module m.name)
  | name :: names => do
    match ← m.find host name with
    | none => return none
    | some found => catalogue.follow? host found names

end Catalogue

end StepFlow
