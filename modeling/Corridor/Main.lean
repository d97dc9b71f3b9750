import Corridor.CommandLine.Session
/-!
The program `corridorgen`: scripts are run on the files of the machine.
-/
namespace Corridor.CommandLine

/-- The error number may come with its sign reversed. -/
def FileError.ofSystem : IO.Error → FileError
  | .noFileOrDirectory .. => .missing
  | .noSuchThing .. => .missing
  | .inappropriateType _ number _ =>
    if number = 20 || number + 20 = 0 then .notDirectory else .isDirectory
  | .invalidArgument _ number details =>
    if number = 36 || number + 36 = 0 then .nameTooLong else .other details
  | error => .other (toString error)

def Script.execute {α : Type} : Script α → IO α
  | .done result => pure result
  | .read path next => do
    let text ← (IO.FS.readFile path).toBaseIO
    (next (text.mapError FileError.ofSystem)).execute
  | .write path text next => do
    let written ← (IO.FS.writeFile path text).toBaseIO
    (next (written.mapError FileError.ofSystem)).execute

end Corridor.CommandLine

open Corridor.CommandLine in
def main (arguments : List String) : IO UInt32 := do
  let report ← (program arguments).execute
  IO.print report.printed
  match report.message with
  | some message => IO.eprintln s!"error: {message}"
  | none => if report.exit = 2 then IO.eprintln "error: invalid arguments"
  return UInt32.ofNat report.exit
