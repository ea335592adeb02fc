import Flowline.Command.Execute
import Std.Time.Format
import Std.Time.Zoned

/-!
The program: reads the files that an invocation names, carries it out, and prints what it says.
Failure is told in the exit code, 1 for a command that failed and 2 for arguments that make no
sense.
-/

namespace Flowline.Main

open Command

def usage : String :=
  "Usage: flowdrop [-c <file>] <verb>\n\n" ++
  "  run <workflow> [-i <json>] [-p <pipeline>] [--fail-fast]\n" ++
  "  compile <workflow>\n" ++
  "  validate <workflow>\n" ++
  "  nodes [-v]\n" ++
  "  help [<verb>]\n"

def version : String := "flowdrop 0.1.0\n"

/-- A random identifier, version 4. -/
def identifier (bytes : List UInt8) : String :=
  let byte (index : Nat) (value : UInt8) : Nat :=
    if index = 6 then value.toNat % 16 + 0x40
    else if index = 8 then value.toNat % 64 + 0x80
    else value.toNat
  let pair (index : Nat) (value : UInt8) : String :=
    let number := byte index value
    let mark := if [4, 6, 8, 10].contains index then "-" else ""
    mark ++ String.ofList [Nat.digitChar (number / 16), Nat.digitChar (number % 16)]
  String.join (bytes.mapIdx pair)

def takeStamps : IO Stamps := do
  let now ← Std.Time.Timestamp.now
  let bytes ← IO.getRandomBytes 16
  let date := Std.Time.DateTime.ofTimestamp now Std.Time.TimeZone.ZoneRules.UTC
  return {
    id := identifier bytes.toList
    timestamp := date.toISO8601String
    created := Json.ofNat now.toSecondsSinceUnixEpoch.val.toNat
    elapsedMs := 0 }

def readFile (path : String) : IO (Except FileError String) := do
  try
    return .ok (← IO.FS.readFile path)
  catch error =>
    match error with
    | .noFileOrDirectory .. => return .error .notFound
    | other => return .error (.other (toString other))

def readFiles (paths : List String) : IO Files := do
  let found ← paths.mapM fun path => return (path, ← readFile path)
  return fun path => (found.lookup path).getD (.error .notFound)

def perform (invocation : Invocation) : IO UInt32 := do
  let files ← readFiles invocation.paths
  let outcome := execute files (← takeStamps) invocation
  for line in outcome.journal do
    IO.eprintln line.render
  IO.print outcome.output
  match outcome.error with
  | none => return 0
  | some error =>
    IO.eprintln ("ERROR " ++ error.message)
    return 1

end Flowline.Main

open Flowline in
def main (arguments : List String) : IO UInt32 := do
  match Command.Invocation.ofArguments arguments with
  | .ok invocation => Main.perform invocation
  | .error .help =>
    IO.print Main.usage
    return 0
  | .error .version =>
    IO.print Main.version
    return 0
  | .error _ =>
    IO.eprint Main.usage
    return 2
