import StepFlow.Catalogue
import StepFlow.Path
import StepFlow.Yaml.Reader

namespace StepFlow

-- What paths lead to, the modules that can be imported, and how YAML is read.
structure World where
  lookup : String → PathTarget
  catalogue : Catalogue
  [yaml : Yaml.Reader]

end StepFlow
