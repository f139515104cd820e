import StepFlow.Fault
import StepFlow.Numeric.Binary64

namespace StepFlow

open StepFlow.Numeric

-- Values are compared with each other through flat lists of atoms: numbers of all types by what
-- they denote, so that `1`, `1.0` and `true` are one key, texts, tuples and records by their
-- content, and all else by identity.
inductive KeyAtom where
  | none
  | number (q : Rat)
  | infinity (negative : Bool)
  | text (s : String)
  | bytes (bs : List UInt8)
  | tuple (size : Nat)
  | container (typeName : String) (size : Nat)
  | native (operation : Native)
  | bound (operation : Native)
  | identity (label : String) (serial : Nat)
deriving DecidableEq

def floatAtom (x : Float) : KeyAtom :=
  match exactValue? x with
  | some q => .number q
  | none => .infinity (isNegative x)

-- Whether the instances of a type are told apart by identity and not by their fields.
def NativeType.hasIdentity : NativeType → Bool
  | .error _ | .missing => true
  | _ => false

mutual

def Value.key : Value → List KeyAtom
  | .none => [.none]
  | .bool b => [.number (if b then 1 else 0)]
  | .int n => [.number n]
  | .float x => [floatAtom x]
  | .nan serial => [.identity "nan" serial]
  | .ratio q => [.number q]
  | .str s => [.text s]
  | .kind k => [.text k.word]
  | .bytes bs => [.bytes bs]
  | .list items => .container "list" items.length :: keys items
  | .tuple items => .tuple items.length :: keys items
  | .set items => .container "set" items.length :: keys items
  | .dict entries => .container "mapping" entries.length :: entryKeys entries
  | .view _ entries => .container "mapping" entries.length :: entryKeys entries
  | .generator serial => [.identity "generator" serial]
  | .registry serial => [.identity "registry" serial]
  | .record type fields serial =>
    if type.hasIdentity then [.identity type.name serial]
    else .container type.name fields.length :: keys fields
  | .object typeName _ serial => [.identity typeName serial]
  | .callable c => c.key
termination_by structural v => v

def keys : List Value → List KeyAtom
  | [] => []
  | v :: vs => v.key ++ keys vs
termination_by structural vs => vs

def entryKeys : List (Value × Value) → List KeyAtom
  | [] => []
  | (k, v) :: rest => k.key ++ v.key ++ entryKeys rest
termination_by structural entries => entries

-- All callables but the library's operations are told apart by serial numbers.
def Callable.key : Callable → List KeyAtom
  | .function serial _ => [.identity "function" serial]
  | .shell serial _ _ _ _ _ => [.identity "function" serial]
  | .step serial _ => [.identity "step" serial]
  | .composed serial .. => [.identity "composed" serial]
  | .native operation => [.native operation]
  | .bound self operation => .bound operation :: self.key
termination_by structural c => c

end

namespace Value

def sameKey (a b : Value) : Bool :=
  a.key == b.key

@[simp]
theorem sameKey_refl (a : Value) : a.sameKey a = true := by
  simp [sameKey]

theorem sameKey_iff {a b : Value} : a.sameKey b = true ↔ a.key = b.key := by
  simp [sameKey]

@[simp]
theorem key_str (s : String) : (Value.str s).key = [.text s] := rfl

end Value

mutual

-- The type that keeps a value from being a key: that of the first mutable container in it.
def Value.unhashable? : Value → Option String
  | .list _ => some "list"
  | .set _ => some "set"
  | .dict _ => some "dict"
  | .view .. => some "mappingproxy"
  | .tuple items => firstUnhashable? items
  | .record .checkRow _ _ => some NativeType.checkRow.name
  | .record .checkReport _ _ => some NativeType.checkReport.name
  | .record type fields _ => if type.hasIdentity then none else firstUnhashable? fields
  | _ => none
termination_by structural v => v

def firstUnhashable? : List Value → Option String
  | [] => none
  | v :: vs =>
    match v.unhashable? with
    | some typeName => some typeName
    | none => firstUnhashable? vs
termination_by structural vs => vs

end

-- A value that is to be looked up or stored as a key.
def Value.hashed (v : Value) : Except Fault Unit :=
  match v.unhashable? with
  | some typeName => .error (.type (.unhashable typeName))
  | Option.none => .ok ()

end StepFlow
