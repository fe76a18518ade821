import CratePlan.CommandLine

/-!
# The program

Reads the files that a command may need, carries the command out on what it has
found, and writes the outcome.
-/

namespace CratePlan

/-- What there is under a name on disk. -/
def stateOnDisk (file : String) : IO FileState := do
  try
    return .file (← IO.FS.readBinFile file)
  catch error =>
    match error with
    | .noFileOrDirectory _ _ _ => return .missing
    | .inappropriateType _ 21 _ => return .directory
    | .inappropriateType _ 20 _ => return .unreadable FileTree.notADirectory
    | error => return .unreadable (toString error)

/-- The files of a list, as they are on disk. -/
def filesOnDisk (names : List String) : IO Files := do
  let states ← names.mapM fun name => return (name, ← stateOnDisk name)
  return fun name => (states.lookup name).getD .missing

/-- How the program is to be called. -/
def usage : String :=
  "usage: plan [-a DIRECTORY] [-c FILE] [-f json|yaml]\n       resolve [-c FILE] NAME...\n"

end CratePlan

open CratePlan in
/-- Carry out the command that the arguments ask for. -/
def main (arguments : List String) : IO UInt32 := do
  match Command.ofArguments? arguments with
  | none =>
    IO.eprint usage
    return usageStatus.toUInt32
  | some command =>
    let outcome := command.run (← filesOnDisk command.inputs)
    IO.print outcome.output
    match outcome.error with
    | none => pure ()
    | some error => IO.eprintln ("Error: " ++ error)
    return outcome.status.toUInt32
