import StepFlow.Text.Split

namespace StepFlow

-- What a path leads to.
inductive PathTarget where
  | missing
  | tooLong
  | directory
  | file (bytes : List UInt8)

-- A path: the slashes that it starts with and the names of its parts.
structure Path where
  root : String
  parts : List String
deriving DecidableEq, Repr

namespace Path

-- The path of a text, without empty parts and parts that stand for the same directory. Two slashes
-- at the start are kept, any other number of them counts as one.
def ofText (text : String) : Path :=
  let slashes := (text.toList.takeWhile (· = '/')).length
  let root := if slashes = 0 then "" else if slashes = 2 then "//" else "/"
  ⟨root, (Text.split '/' text).filter fun part => part ≠ "" && part ≠ "."⟩

-- The parts of the path of a text.
def partsOf (text : String) : List String :=
  (ofText text).parts

-- A path below another one; a path from the root stands for itself.
def below (base path : Path) : Path :=
  if path.root.isEmpty then ⟨base.root, base.parts ++ path.parts⟩ else path

def text (path : Path) : String :=
  let shown := path.root ++ String.intercalate "/" path.parts
  if shown.isEmpty then "." else shown

-- The path of a text as it is shown.
def shown (path : String) : String :=
  (ofText path).text

-- The text of the path of texts below each other.
def join (texts : List String) : String :=
  ((texts.map ofText).foldl below ⟨"", []⟩).text

end Path

end StepFlow
