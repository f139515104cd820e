import StepFlow.Text.Utf16
import StepFlow.Value.Lacking
import StepFlow.Yaml.Document
import StepFlow.Yaml.Reader

namespace StepFlow.Yaml

-- A conversion of a number that fails is an error of its own; all else is malformed YAML.
def Fault.conversion? : Fault → Option StepFlow.Fault
  | .malformed => none
  | .digits base => some (.value (.digits base (Text.quoted "")))
  | .tooManyDigits count => some (.value (.tooManyDigits count))

-- The value of a text, if it is YAML.
def value? (text : List Char) : Except StepFlow.Fault (Option Value) :=
  match load text with
  | .ok v => .ok (some v)
  | .error fault => fault.conversion?.elim (.ok none) .error

-- The characters of a text or of bytes, if they have any. Bytes tell by a mark at their start
-- whether they are in UTF-16.
def charactersOf (text : Value) : Except StepFlow.Fault (Option (List Char)) :=
  match text, text.text? with
  | .bytes bytes, _ =>
    match Text.Utf16.markedOrder? bytes with
    | some bigEndian => .ok (Text.Utf16.decode? bigEndian bytes)
    | none => .ok (Text.decodeFrom 0 bytes).toOption
  | _, some s => .ok (Text.chars? s)
  | text, none => .error (text.lacks "read")

-- The reader at hand, for the part of YAML that `load` covers. Directives, dates, sets and binary
-- scalars are not in it. It takes a file to its end before it looks at what is written there, so
-- that a file which does not decode is never found to be malformed.
instance subset : Reader where
  read
    | .value v => do
      match ← charactersOf v with
      | some text => value? text
      | none => return none
    | .file ⟨_, some bad⟩ => .error (.undecodable bad)
    | .file ⟨text, none⟩ => value? text

end StepFlow.Yaml
