import DocTable.CommandLine.Session
import DocTable.Store.Recording

/-!
The command line program. The store that it asks is recorded: its answers stand as one JSON text on
the standard input.
-/

namespace DocTable.CommandLine

def usage : String :=
  "Run shell-style document queries and print typed tables

Usage: run [--config PATH] QUERY
       ping [--config PATH]
       help [COMMAND]"

def UsageProblem.message : UsageProblem → String
  | helpAsked | nothingAsked => usage
  | unknownCommand => "error: unrecognized command"
  | unknownArgument => "error: unexpected argument"
  | queryMissing => "error: no query given"
  | valueMissing => "error: no value given for --config"
  | optionRepeated => "error: --config given more than once"
  | valueNotTaken => "error: --help takes no value"

end DocTable.CommandLine

open DocTable DocTable.CommandLine

def contentOf (path : String) : IO (Option String) := do
  try
    let text ← IO.FS.readFile path
    return some text
  catch _ => return none

def main (arguments : List String) : IO UInt32 := do
  match Invocation.ofArguments arguments with
  | .error .helpAsked =>
    IO.println usage
    return 0
  | .error problem =>
    IO.eprintln problem.message
    return 2
  | .ok invocation =>
    let content ← contentOf invocation.config
    let input ← (← IO.getStdin).readToEnd
    match Recording.parse? input.toList with
    | none =>
      IO.eprintln "Error: no recorded store on the standard input"
      return 1
    | some recording => match (invocation.perform recording.server content).value with
      | .ok line =>
        IO.println line
        return 0
      | .error failure =>
        IO.eprintln s!"Error: {failure.message}"
        return 1
