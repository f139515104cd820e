import StepFlow.Pipeline
import StepFlow.Catalogue

namespace StepFlow

structure CheckRow where
  name : String
  ok : Bool
  detail : String

structure CheckReport where
  rows : List CheckRow

namespace CheckReport

def ok (report : CheckReport) : Bool :=
  report.rows.all (·.ok)

def status (ok : Bool) : String :=
  if ok then "OK" else "FAIL"

def line (ok : Bool) (name detail : String) : String :=
  s!"[{status ok}] {name}: {detail}"

-- The lines of the rows and one for all of them.
def textOf (lines : List String) (ok : Bool) : String :=
  String.intercalate "\n" (lines ++ [s!"overall: {status ok}"])

def text (report : CheckReport) : String :=
  textOf (report.rows.map fun row => line row.ok row.name row.detail) report.ok

-- A report as a value.
def value (report : CheckReport) : Value :=
  let rowValue (row : CheckRow) : Value :=
    .record .checkRow [.str row.name, .bool row.ok, .str row.detail] 0
  .record .checkReport [.list (report.rows.map rowValue)] 0

end CheckReport

namespace SelfCheck

-- The module that reads YAML.
def reader : String := "yaml"

-- The version of a module, if it tells one.
def versionOf (host : Host) (catalogue : Catalogue) (name : String) : Run String := do
  match catalogue.find? name <|> catalogue.referred? name with
  | none => Run.fail (.raised .value (ImportFault.absent name).message)
  | some m =>
    match ← m.find host "__version__" with
    | some (.value version) => Fault.met version.plainForm
    | _ => return "unknown"

-- The row of a module that has to be there.
def moduleRow (host : Host) (catalogue : Catalogue) (name : String) : Run CheckRow := do
  match ← Run.attempt (versionOf host catalogue name) with
  | .ok version => return ⟨name, true, s!"version={version}"⟩
  | .error fault => return ⟨name, false, fault.message⟩

structure SmokeCase where
  name : String
  first : Callable
  rest : List Callable
  expected : Value

def smokeCases : List SmokeCase :=
  [⟨"smoke product", BuiltIn.loadValue, [BuiltIn.addOne, BuiltIn.product], .int 650⟩,
    ⟨"smoke fork", BuiltIn.loadValue, [BuiltIn.addOne, BuiltIn.nop, BuiltIn.quotient],
      .ratio (25 / 26)⟩]

-- Runs a smoke pipeline on 25. A run that fails is a row that fails, and no error.
def smokeRow (host : Host) (smoke : SmokeCase) : Run CheckRow := do
  match ← Run.attempt (Pipeline.runSteps host smoke.first smoke.rest [.int 25]) with
  | .ok v =>
    let detail := s!"result={v.plain}, expected={smoke.expected.plain}"
    return ⟨smoke.name, v.sameKey smoke.expected, detail⟩
  | .error fault =>
    return ⟨smoke.name, false, s!"{fault.category.className}: {fault.message}"⟩

def report (host : Host) (catalogue : Catalogue) (smoke : Bool) : Run CheckReport := do
  let row ← moduleRow host catalogue reader
  let rows ← if smoke then smokeCases.mapM (smokeRow host) else pure []
  return ⟨row :: rows⟩

end SelfCheck

end StepFlow
