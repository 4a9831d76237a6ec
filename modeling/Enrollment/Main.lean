import Enrollment.Program
import Enrollment.Secret.Token

/-!
# The executable

Arguments, variables and the secret come in from the machine; lines and an exit code go out.
No network is attached here, so the inventory cannot be reached, and the domains of URLs have to
be spelled in ASCII.
-/

namespace Enrollment.Executable

open Secret

/-- What a path leads to on this machine. A directory can be opened, but not read. -/
def find (path : String) : IO (Except PathFault Node) := do
  if path.toList.contains '\x00' then return .error (.fault .nulInName)
  try
    return .ok (.file (← IO.FS.readBinFile path).toList)
  catch
    | .noFileOrDirectory _ _ _ => return .error .missing
    | .inappropriateType none _ _ => return .ok .directory
    | .inappropriateType (some _) _ _ => return .error (.fault .notDirectory)
    | .invalidArgument _ _ _ => return .error (.fault .nameTooLong)
    | e => return .error (.fault (.reported (toString e)))

/-- The token that a secret on this machine holds. -/
def token (root ref : String) : IO (Except LookupFault String) :=
  return tokenOf ref (← find (directoryOf root ref)) (← find (tokenPath root ref))

/-- The variables that are set, with their values. -/
def variableValues : IO (List (String × String)) :=
  Program.variableNames.filterMapM fun name => do
    return (← IO.getEnv name).map (name, ·)

/-- Print what is left when the program has ended. -/
def finish (ending : Program.Ending) : IO UInt32 := do
  for line in ending.lines do
    IO.println line
  for failure in ending.reported.toList do
    IO.println (Program.reportLine failure)
  for text in ending.startupError.toList do
    IO.eprintln text
  return ending.exit.toUInt32

end Enrollment.Executable

open Enrollment in
def main (args : List String) : IO UInt32 := do
  let := Url.Idna.asciiOnly
  let set ← Executable.variableValues
  match Program.start args fun name => set.lookup name with
  | .error ending => Executable.finish ending
  | .ok job =>
    let found ← Executable.token job.config.secretsDir job.config.tokenRef
    let (ending, _) := (job.run ⟨Http.Server.unreachable, .timer⟩ fun _ => found).run { server := () }
    Executable.finish ending
