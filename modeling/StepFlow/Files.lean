import StepFlow.Path
import StepFlow.Text.Spelling

namespace StepFlow

-- The name of a file or directory.
abbrev FileName := List UInt8

-- The bytes of a code point in names. A half from DC80 to DCFF stands for a byte that is no part of
-- a character; others have none.
def FileName.ofCode? (code : Nat) : Option FileName :=
  if !Text.isHalf code then some (String.singleton (Char.ofNat code)).toUTF8.toList
  else if 0xDC80 ≤ code && code < 0xDD00 then some [UInt8.ofNat (code - 0xDC00)]
  else none

def FileName.ofText? (text : String) : Option FileName :=
  ((Text.codes text).mapM ofCode?).map List.flatten

-- The files below a directory, each under the names on its path, and directories below it beside
-- those that files are in. What is `above` it is known only of the root, which is above itself.
structure Files where
  contents : List (List FileName × List UInt8)
  directories : List (List FileName)
  above : Option (List FileName)

namespace Files

-- The names on a path, which have bytes.
def placeOf? (path : String) : Option (List FileName) :=
  (Path.partsOf path).mapM FileName.ofText?

-- Files at paths below the current directory; one whose path has no bytes is nowhere.
def ofList (files : List (String × List UInt8)) : Files :=
  ⟨files.filterMap fun (path, bytes) => (placeOf? path).map fun place => (place, bytes), [], none⟩

-- What is found at the root of every system.
def system : Files :=
  let directories :=
    ["bin", "boot", "dev", "etc", "home", "lib", "media", "mnt", "opt", "proc", "root", "run",
      "sbin", "srv", "sys", "tmp", "usr", "var"]
  ⟨[("/dev/null", [])].filterMap fun (path, bytes) =>
      (placeOf? path).map fun place => (place, bytes),
    directories.filterMap placeOf?, some []⟩

def isDirectory (files : Files) (place : List FileName) : Bool :=
  place.isEmpty || files.directories.contains place ||
    files.contents.any fun (parts, _) => place.isPrefixOf parts && parts ≠ place

def nameLimit : Nat := 255

def pathLimit : Nat := 4096

def parentName : FileName := "..".toUTF8.toList

-- Follows names from a directory, which is given by its own path or by none for a directory of
-- which nothing is known but that no name in it is too long.
def follow (files : Files) : Option (List FileName) → List FileName → PathTarget
  | some place, [] =>
    match files.contents.reverse.lookup place with
    | some bytes => .file bytes
    | none => if files.isDirectory place then .directory else .missing
  | none, [] => .directory
  | place?, name :: names =>
    match place? with
    | none =>
      if name = parentName then follow files none names
      else if nameLimit < name.length then .tooLong
      else .missing
    | some place =>
      if !files.isDirectory place then .missing
      else if name = parentName then
        follow files (if place.isEmpty then files.above else some place.dropLast) names
      else if nameLimit < name.length then .tooLong
      else follow files (some (place ++ [name])) names

-- What a path leads to. One that has no bytes, or a zero among them, leads nowhere.
def lookup (files : Files) (path : String) : PathTarget :=
  match FileName.ofText? (Path.shown path), placeOf? path with
  | some bytes, some names =>
    if bytes.contains 0 then .missing
    else if pathLimit ≤ bytes.length then .tooLong
    else follow (if path.startsWith "/" then system else files) (some []) names
  | _, _ => .missing

end Files

end StepFlow
