import StepFlow.Fault.Operation
import StepFlow.Name
import StepFlow.Native

namespace StepFlow

-- How arguments reach a parameter.
inductive ParamMode where
  | positionalOnly
  | positionalOrKeyword
  | variadic
  | keywordOnly
  | keywords
deriving DecidableEq, Repr

structure Param (α : Type) where
  name : Name
  mode : ParamMode
  default? : Option α

-- A function as it is written down: its name, parameters, body and documentation.
structure Routine (α β : Type) where
  name : String
  params : List (Param α)
  body : β
  doc? : Option String

-- A declared step: fixed parameter names in order, an optional variadic name (input steps
-- only), the body that is called with the values bound to them, and documentation.
structure Declaration (ν γ : Type) where
  kind : StepKind
  name : Name
  fixed : List Name
  rest? : Option String
  body : γ
  doc : ν

mutual

-- Values. Serial numbers are identities: what has one is told apart by it from all that looks
-- the same. Not-a-number has one too, as it equals nothing but itself. A `view` is a read-only
-- mapping over the entries of a mapping, in as many more layers as it says. What a generator has
-- left and what a registry holds is kept elsewhere. A `record` has a type and fields; an `object`
-- has nothing but its type's name and its shown text. Containers are not shared: one that is stored
-- into is a new one, and no other value that held the old one is changed with it. Classes that
-- compute their shown form, their truth value or their equality are left out.
inductive Value where
  | none
  | bool (b : Bool)
  | int (n : Int)
  | float (x : Float)
  | nan (serial : Nat)
  | ratio (q : Rat)
  | str (s : String)
  | kind (k : StepKind)
  | bytes (bs : List UInt8)
  | list (items : List Value)
  | tuple (items : List Value)
  | set (items : List Value)
  | dict (entries : List (Value × Value))
  | view (layers : Nat) (entries : List (Value × Value))
  | generator (serial : Nat)
  | registry (serial : Nat)
  | record (type : NativeType) (fields : List Value) (serial : Nat)
  | object (typeName text : String) (serial : Nat)
  | callable (c : Callable)

-- Callables: a plain function, an object that shows a text and names of its own around a
-- function, a declared step, a composition of one or more steps under a name, the library's
-- operations, and an operation bound to its first argument.
inductive Callable where
  | function (serial : Nat) (code : Routine Value Expr)
  | shell (serial : Nat) (text : String) (name? stepName? : Option Value)
      (introspectable : Bool) (code : Routine Value Expr)
  | step (serial : Nat) (declaration : Declaration Value Callable)
  | composed (serial : Nat) (name : String) (first : Callable) (rest : List Callable)
  | native (operation : Native)
  | bound (self : Value) (operation : Native)

-- Bodies of functions. A literal is one value however often it is evaluated; what is made `anew`
-- looks like the given value and has an identity of its own each time, as functions written in a
-- body have. What is `named` is looked up when it is needed. What is called and run is any value.
inductive Expr where
  | var (name : String)
  | named (name : String)
  | lit (value : Value)
  | anew (value : Value)
  | function (code : Routine Expr Expr)
  | shell (text : String) (name? stepName? : Option Expr) (introspectable : Bool)
      (code : Routine Expr Expr)
  | generator (items : List Expr)
  | dict (entries : List (Expr × Expr))
  | view (mapping : Expr)
  | list (items : List Expr)
  | tuple (items : List Expr)
  | set (items : List Expr)
  | binary (op : Operator) (left right : Expr)
  | ratio (left right : Expr)
  | item (container key : Expr)
  | setItem (container key value : Expr)
  | spread (left right : Expr)
  | typeName (value : Expr)
  | scopeEnv (names : List Expr)
  | partialEnv (pairs : List (Expr × Expr))
  | keywordEnv (names : List String) (values : List Expr)
  | call (callee : Expr) (args : List Expr)
  | run (args : Expr) (steps : List Expr)
  | note (label : String) (value : Expr)
  | raise (category : Category) (message : String)

end

-- The entries of a mapping in insertion order.
abbrev Entries := List (Value × Value)

-- Parameters of functions over values.
abbrev Signature := List (Param Value)

namespace Value

-- The entries of a value that is a mapping.
def entries? : Value → Option Entries
  | .dict entries | .view _ entries => some entries
  | _ => Option.none

-- The items of a value that counts as an explicit list.
def items? : Value → Option (List Value)
  | .list items | .tuple items => some items
  | _ => Option.none

def callable? : Value → Option Callable
  | .callable c => some c
  | _ => Option.none

-- A mutable mapping is handed on as a read-only view of the same entries; every other value is
-- handed on as it is.
def snapshot : Value → Value
  | .dict entries => .view 0 entries
  | v => v

-- The value of a name.
def ofName : Name → Value
  | .text s => .str s
  | .kind k => .kind k

-- The name that a value is, if it is a text.
def name? : Value → Option Name
  | .str s => some (.text s)
  | .kind k => some (.kind k)
  | _ => Option.none

-- The text of a value that is one. A kind of step is the text of its word.
def text? (v : Value) : Option String :=
  v.name?.map Name.word

-- The same value with another identity, if it has one at all.
def withIdentity (v : Value) (serial : Nat) : Value :=
  match v with
  | .nan _ => .nan serial
  | .object typeName text _ => .object typeName text serial
  | v => v

-- The empty and the zero values are false, all others true.
def truthy : Value → Bool
  | .none => false
  | .bool b => b
  | .int n => n != 0
  | .float x => x != 0
  | .ratio q => q != 0
  | .str s => !s.isEmpty
  | .bytes bs => !bs.isEmpty
  | .list items | .tuple items | .set items => !items.isEmpty
  | .dict entries | .view _ entries => !entries.isEmpty
  | .nan _ | .kind _ | .generator _ | .registry _ | .record .. | .object .. | .callable _ => true

end Value

end StepFlow
