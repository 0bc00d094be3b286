import Listfile.Text.Bytes
import Listfile.Text.Find

/-!
# Files

* `ReadFault`: why a file cannot be read.
* `Files`: files that are found by their path from a directory.
* `Files.read`, `Files.write`: the bytes of a file.
-/

namespace Listfile.CommandLine

/-- Why a file cannot be read as text. -/
inductive ReadFault
  | missing
  | notDirectory
  | isDirectory
  | nameTooLong
  | notText
deriving DecidableEq, Inhabited

/-- What the user is told. -/
def ReadFault.message : ReadFault → String
  | missing => "No such file or directory (os error 2)"
  | notDirectory => "Not a directory (os error 20)"
  | isDirectory => "Is a directory (os error 21)"
  | nameTooLong => "File name too long (os error 36)"
  | notText => "stream did not contain valid UTF-8"

/-- The names that lead to a file. -/
abbrev Names := List (List Char)

/-- Files with the names that lead to them from a directory. There are the directories that the names
mention, and no others. -/
structure Files where
  entries : List (Names × List UInt8)
deriving Inhabited

/-- Where a path leads. -/
inductive Location
  /-- A directory that is known. -/
  | directory (names : Names)
  /-- A directory of which nothing is known. -/
  | elsewhere
  | file (names : Names)
deriving DecidableEq

namespace Files

/-- Is this a directory? -/
def isDirectory (fs : Files) (names : Names) : Bool :=
  names.isEmpty || fs.entries.any fun e => names.isPrefixOf e.1 && names != e.1

/-- Follow one part of a path. A name has at most 255 bytes. -/
def step (fs : Files) (place : Location) (part : List Char) : Except ReadFault Location :=
  match place with
  | .file _ => .error .notDirectory
  | .elsewhere =>
    if part = [] ∨ part = ['.'] ∨ part = ['.', '.'] then .ok .elsewhere
    else if 255 < byteLength part then .error .nameTooLong
    else .error .missing
  | .directory names =>
    if part = [] ∨ part = ['.'] then .ok place
    else if part = ['.', '.'] then
      if names = [] then .ok .elsewhere else .ok (.directory names.dropLast)
    else if 255 < byteLength part then .error .nameTooLong
    else
      let names := names ++ [part]
      if (fs.entries.lookup names).isSome then .ok (.file names)
      else if fs.isDirectory names then .ok (.directory names)
      else .error .missing

/-- Where a path leads. A path has at most 4095 bytes. -/
def locate (fs : Files) (path : String) : Except ReadFault Location :=
  if 4095 < byteLength path.toList then .error .nameTooLong
  else match path.toList with
  | [] => .error .missing
  | '/' :: rest => (splitAtChar '/' rest).foldlM fs.step .elsewhere
  | path => (splitAtChar '/' path).foldlM fs.step (.directory [])

/-- The bytes of the file to which a path leads. -/
def read (fs : Files) (path : String) : Except ReadFault (List UInt8) := do
  match ← fs.locate path with
  | .file names =>
    match fs.entries.lookup names with
    | some bytes => return bytes
    | none => throw .missing
  | .directory _ | .elsewhere => throw .isDirectory

/-- Replace the bytes of the file to which a path leads. -/
def write (fs : Files) (path : String) (bytes : List UInt8) : Files :=
  match fs.locate path with
  | .ok (.file names) =>
    ⟨fs.entries.map fun e => if e.1 = names then (names, bytes) else e⟩
  | _ => fs

end Files

end Listfile.CommandLine
