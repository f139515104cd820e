import StepFlow.Fault
import StepFlow.Text.Stream

namespace StepFlow.Yaml

-- What YAML is read from: a value, which may be a text or bytes, or an open text file.
inductive Source where
  | value (v : Value)
  | file (stream : Text.Stream)

-- How YAML is read: the value of a source, or none if it is no YAML. A package beside this library
-- does it, so whatever depends on it is about any reader.
class Reader where
  read : Source → Except Fault (Option Value)

end StepFlow.Yaml
