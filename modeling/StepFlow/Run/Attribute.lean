import StepFlow.Attribute
import StepFlow.Run.Items

namespace StepFlow.Value

-- An attribute that a value was given or has of its own.
def givenOrOwn (v : Value) (name : String) : Run Value := do
  match ← Run.given? v name, v.attribute? name with
  | some found, _ => return found
  | Option.none, some found => return found
  | Option.none, Option.none => Run.fail (v.lacks name)

-- Whether all rows of a report hold, which is asked up to the first that does not.
def holds (report : Value) : Run Value := do
  let rows ← report.givenOrOwn "rows"
  let fails ← Run.anyItem rows fun row => do return !(← row.givenOrOwn "ok").truthy
  return .bool !fails

-- An attribute that a value has to have. A generator that has ended has no frame any more.
def getAttribute (v : Value) (name : String) : Run Value :=
  match v with
  | .record .checkReport _ _ => if name = "ok" then v.holds else v.givenOrOwn name
  | .generator serial => do
    if name = "gi_frame" && (← Run.hasFinished serial) then return .none else v.givenOrOwn name
  | v => v.givenOrOwn name

end StepFlow.Value
