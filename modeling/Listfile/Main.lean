import Listfile.CommandLine.Run

/-!
# The program

The files that an invocation may read are read first. What is to be written and shown is decided before
anything is written or shown.
-/

open Listfile Listfile.CommandLine

/-- Why a file could not be read. -/
def readFaultOf : IO.Error → ReadFault
  | .noFileOrDirectory .. | .noSuchThing .. => .missing
  | .inappropriateType .. => .notDirectory
  | .invalidArgument .. => .nameTooLong
  | _ => .isDirectory

/-- Read a file. -/
def readBytes (path : String) : IO (Except ReadFault (List UInt8)) := do
  try
    return .ok (← IO.FS.readBinFile path).toList
  catch e => return .error (readFaultOf e)

/-- Read the files that a request may need. -/
def readAll (request : Request) : IO ReadFile := do
  match request with
  | .perform i =>
    let table ← i.paths.mapM fun path => return (path, ← readBytes path)
    return fun path => (table.lookup path).getD (.error .missing)
  | _ => return fun _ => .error .missing

/-- Run the program. -/
def main (arguments : List String) : IO UInt32 := do
  let request := Request.ofArguments arguments
  let outcome := request.run (← readAll request)
  if let some (path, bytes) := outcome.written then
    try
      IO.FS.writeBinFile path ⟨bytes.toArray⟩
    catch e =>
      IO.eprintln ("Error: failed to write " ++ path ++ ": " ++ toString e)
      return 1
  IO.print (String.ofList outcome.stdout)
  IO.eprint (String.ofList outcome.stderr)
  return UInt32.ofNat outcome.exit
