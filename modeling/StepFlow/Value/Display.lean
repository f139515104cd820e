import StepFlow.Value.Basic
import StepFlow.Fault.Declaring
import StepFlow.Numeric.Shortest

namespace StepFlow

open StepFlow.Text StepFlow.Numeric

def Callable.typeName : Callable → String
  | .function .. | .step .. | .composed .. => "function"
  | .shell .. => "CallObj"
  | .native operation => operation.typeName
  | .bound (.callable (.shell ..)) .invoke => "method"
  | .bound _ operation => if operation.typeName = "function" then "method" else operation.typeName

-- The quoted form of a callable: the text of its own that a callable object has, else its name.
def Callable.text : Callable → String
  | .function _ code => s!"<function {code.name}>"
  | .shell _ text _ _ _ _ => text
  | .step _ declaration => s!"<function {declaration.name.word}>"
  | .composed .. => "<function compose.<locals>.run_composed>"
  | .native operation => operation.shown
  | .bound _ operation => s!"<bound method {operation.fullName}>"

def ratioText (q : Rat) : String :=
  if q.den = 1 then toString q.num else s!"{q.num}/{q.den}"

namespace Value

def typeName : Value → String
  | .none => "NoneType"
  | .bool _ => "bool"
  | .int _ => "int"
  | .float _ | .nan _ => "float"
  | .ratio _ => "Fraction"
  | .str _ => "str"
  | .kind _ => NativeType.stepKind.name
  | .bytes _ => "bytes"
  | .list _ => "list"
  | .tuple _ => "tuple"
  | .set _ => "set"
  | .dict _ => "dict"
  | .view .. => "mappingproxy"
  | .generator _ => "generator"
  | .registry _ => NativeType.registry.name
  | .record type _ _ => type.instanceName
  | .object typeName _ _ => typeName
  | .callable c => c.typeName

-- The name of the type where operations complain about an operand. The type of a synonym that is
-- filled in has its module in front.
def operandType (v : Value) : String :=
  if v.typeName = "GenericAlias" then "types.GenericAlias" else v.typeName

end Value

def commaJoined (texts : List String) : String :=
  String.intercalate ", " texts

def braced (text : String) : String :=
  "\x7b" ++ text ++ "\x7d"

-- Fields with their names in front.
def namedFields (names shown : List String) : String :=
  commaJoined ((names.zip shown).map fun (name, text) => s!"{name}={text}")

mutual

-- The quoted form.
def Value.shown : Value → String
  | .none => "None"
  | .bool b => if b then "True" else "False"
  | .int n => toString n
  | .float x => shortest x
  | .nan _ => "nan"
  | .ratio q => s!"Fraction({q.num}, {q.den})"
  | .str s => quoted s
  | .kind k => k.quoted
  | .bytes bs => quotedBytes bs
  | .list items => "[" ++ commaJoined (shownAll items) ++ "]"
  | .tuple items =>
    match shownAll items with
    | [one] => "(" ++ one ++ ",)"
    | texts => "(" ++ commaJoined texts ++ ")"
  | .set items =>
    match shownAll items with
    | [] => "set()"
    | texts => braced (commaJoined texts)
  | .dict entries => braced (commaJoined (shownEntries entries))
  | .view layers entries =>
    String.join (List.replicate (layers + 1) "mappingproxy(") ++
      braced (commaJoined (shownEntries entries)) ++
      String.join (List.replicate (layers + 1) ")")
  | .generator _ => "<generator object>"
  | .registry _ => "<envpipe.pipeline.registry.StepRegistry object>"
  | .record type fields _ =>
    let texts := shownAll fields
    let inside := if type.fieldNames.isEmpty then commaJoined texts
      else namedFields type.fieldNames texts
    type.instanceName ++ "(" ++ inside ++ ")"
  | .object _ text _ => text
  | .callable c => c.text
termination_by structural v => v

def shownAll : List Value → List String
  | [] => []
  | v :: vs => v.shown :: shownAll vs
termination_by structural vs => vs

def shownEntries : List (Value × Value) → List String
  | [] => []
  | (k, v) :: rest => (k.shown ++ ": " ++ v.shown) :: shownEntries rest
termination_by structural entries => entries

end

mutual

-- The plain form: a text stands for itself, a view for the mapping under it, and an error or a
-- path for what it was made of.
def Value.plain : Value → String
  | .str s => s
  | .kind k => k.plain
  | .ratio q => ratioText q
  | .view _ entries => braced (commaJoined (shownEntries entries))
  | .record (.error _) fields _ => plainOnly (Value.tuple fields).shown fields
  | .record .path fields _ => plainOnly "" fields
  | v => v.shown
termination_by structural v => v

-- The plain form of a value alone; other numbers of values have the form given.
def plainOnly (other : String) : List Value → String
  | [] => ""
  | v :: vs => if vs.isEmpty then v.plain else other
termination_by structural vs => vs

end

-- The first number with more decimal digits than are shown.
def longNumber : Nat := Nat.pow 10 digitLimit

theorem longNumber_pos : 0 < longNumber := by
  decide +kernel

mutual

-- Whether there is a number in a value that is too long to be shown.
def Value.hasLongNumber : Value → Bool
  | .int n => longNumber ≤ n.natAbs
  | .ratio q => longNumber ≤ q.num.natAbs || longNumber ≤ q.den
  | .list items | .tuple items | .set items => anyLongNumber items
  | .record _ fields _ => anyLongNumber fields
  | .dict entries | .view _ entries => anyLongEntry entries
  | _ => false
termination_by structural v => v

def anyLongNumber : List Value → Bool
  | [] => false
  | v :: vs => v.hasLongNumber || anyLongNumber vs
termination_by structural vs => vs

def anyLongEntry : List (Value × Value) → Bool
  | [] => false
  | (k, v) :: rest => k.hasLongNumber || v.hasLongNumber || anyLongEntry rest
termination_by structural entries => entries

end

namespace Value

theorem hasLongNumber_int (n : Int) :
    (Value.int n).hasLongNumber = decide (longNumber ≤ n.natAbs) := rfl

theorem hasLongNumber_longNumber : (Value.int longNumber).hasLongNumber = true := by
  rw [hasLongNumber_int, Int.natAbs_natCast]
  exact decide_eq_true (Nat.le_refl _)

-- The quoted form of a value that has one: all of its numbers can be shown.
def quotedForm (v : Value) : Except Unmet String :=
  if v.hasLongNumber then .error .longNumber else .ok v.shown

-- The plain form of a value that has one.
def plainForm (v : Value) : Except Unmet String :=
  if v.hasLongNumber then .error .longNumber else .ok v.plain

end Value

namespace Callable

-- The name that a callable is displayed under: a step name of its own, else its function name,
-- else its quoted form. The names of an object can be any values, so it may have no name that
-- can be shown. A composition got its name from those of its parts when it was made.
def displayForm : Callable → Except Unmet String
  | .function serial code =>
    .ok (if code.name.isEmpty then Callable.text (.function serial code) else code.name)
  | .shell _ text name? stepName? _ _ =>
    match stepName?.filter Value.truthy <|> name?.filter Value.truthy with
    | some v => v.plainForm
    | none => .ok text
  | .step _ declaration => .ok declaration.name.plain
  | .composed serial name first rest =>
    .ok (if name.isEmpty then Callable.text (.composed serial name first rest) else name)
  | .native operation | .bound _ operation => .ok operation.name

-- The display name where there is nobody to complain to.
def displayName (c : Callable) : String :=
  (c.displayForm.toOption).getD ""

-- Only the names of an object can have no plain form.
def IsNamed (c : Callable) : Prop :=
  ∃ name, c.displayForm = .ok name

theorem displayForm_of_isNamed {c : Callable} (h : c.IsNamed) :
    c.displayForm = .ok c.displayName := by
  obtain ⟨name, hname⟩ := h
  rw [displayName, hname]
  rfl

theorem displayForm_of_not_isNamed {c : Callable} (h : ¬ c.IsNamed) :
    c.displayForm = .error .longNumber := by
  cases c with
  | shell serial text name? stepName? introspectable code =>
      simp only [IsNamed, displayForm] at h ⊢
      cases hname : stepName?.filter Value.truthy <|> name?.filter Value.truthy with
      | none => exact absurd ⟨text, by rw [hname]⟩ h
      | some v =>
          rw [hname] at h
          cases hlong : v.hasLongNumber with
          | false => exact absurd ⟨v.plain, by simp only [Value.plainForm, hlong]; rfl⟩ h
          | true => simp only [Value.plainForm, hlong]; rfl
  | _ => exact absurd ⟨_, rfl⟩ h

instance (c : Callable) : Decidable c.IsNamed :=
  match h : c.displayForm with
  | .ok name => isTrue ⟨name, h⟩
  | .error _ => isFalse fun ⟨_, hname⟩ => nomatch h.symm.trans hname

@[simp]
theorem isNamed_step (serial : Nat) (d : Declaration Value Callable) :
    (Callable.step serial d).IsNamed :=
  ⟨_, rfl⟩

@[simp]
theorem isNamed_composed (serial : Nat) (name : String) (first : Callable)
    (rest : List Callable) : (Callable.composed serial name first rest).IsNamed :=
  ⟨_, rfl⟩

end Callable

-- The name that all generators have.
def generatorName : String := "<genexpr>"

namespace Value

-- The display name of any value, callable or not.
def displayForm : Value → Except Unmet String
  | .callable c => c.displayForm
  | .generator _ => .ok generatorName
  | v => v.quotedForm

def displayName (v : Value) : String :=
  (v.displayForm.toOption).getD ""

end Value

mutual

-- Whether a value can be handed out: the numbers of its containers can be shown and its callables
-- have names. What has fields of its own is handed out as it is.
def Value.isPortable : Value → Bool
  | .int n => n.natAbs < longNumber
  | .ratio q => q.num.natAbs < longNumber && q.den < longNumber
  | .list items | .tuple items | .set items => arePortable items
  | .dict entries | .view _ entries => entriesPortable entries
  | .callable c => c.displayForm.isOk
  | _ => true
termination_by structural v => v

def arePortable : List Value → Bool
  | [] => true
  | v :: vs => v.isPortable && arePortable vs
termination_by structural vs => vs

def entriesPortable : List (Value × Value) → Bool
  | [] => true
  | (k, v) :: rest => k.isPortable && v.isPortable && entriesPortable rest
termination_by structural entries => entries

end

def Value.requireShort (v : Value) : Except Unmet Unit :=
  if v.isPortable then .ok () else .error .longNumber

end StepFlow
