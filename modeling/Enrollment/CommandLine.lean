/-!
# The command line

A call names one command. Two of the commands take the id of a cluster as an option, which
can also be left to a variable. Options that are unknown or repeated, values that are
missing, and arguments that nothing is expected for are misuse.
-/

namespace Enrollment

/-- What is to be done; the id of the cluster may be missing. -/
inductive Command where
  | register
  | unregister (clusterId : Option String)
  | status (clusterId : Option String)
  deriving DecidableEq, Repr

/-- What a command line asks for. -/
inductive CommandLine where
  | run (command : Command)
  | version
  | help
  | misuse
  deriving DecidableEq, Repr

namespace CommandLine

def isOption (arg : String) : Bool := arg.toList.head? = some '-' && arg ≠ "-"

def isHelp (arg : String) : Bool := arg = "--help" || arg.startsWith "-h"

def isVersion (arg : String) : Bool := arg = "--version" || arg.startsWith "-V"

/-- The names of the commands, that for help among them. -/
def commandNames : List String := ["register", "unregister", "status", "help"]

def idOption : String := "--cluster-id"

/-- The value behind the equals sign of the option for the id. -/
def attachedId? (arg : String) : Option String :=
  let mark := idOption.toList ++ ['=']
  if mark.isPrefixOf arg.toList then some (String.ofList (arg.toList.drop mark.length)) else none

/-- The arguments of a command that takes an id. The variable stands in for the option. -/
def readId (fallback : Option String) (command : Option String → Command)
    (given : Option String) : List String → CommandLine
  | [] => run (command (given.or fallback))
  | ["--"] => run (command (given.or fallback))
  | arg :: args =>
    if isHelp arg then help
    else if given.isSome then misuse
    else if arg = idOption then
      match args with
      | [] => misuse
      | value :: args =>
        if isOption value then misuse else readId fallback command (some value) args
    else
      match attachedId? arg with
      | some value => readId fallback command (some value) args
      | none => misuse

/-- The arguments of a command that takes none. -/
def readNone (command : Command) : List String → CommandLine
  | [] | ["--"] => run command
  | arg :: _ => if isHelp arg then help else misuse

/-- The arguments behind the word for help: at most the name of a command. -/
def readHelp : List String → CommandLine
  | [] => help
  | [name] => if name ∈ commandNames then help else misuse
  | _ => misuse

/-- Read the arguments behind the name of the program. `fallback` is the variable that holds
the id of the cluster. -/
def parse (fallback : Option String) : List String → CommandLine
  | "register" :: args => readNone .register args
  | "unregister" :: args => readId fallback .unregister none args
  | "status" :: args => readId fallback .status none args
  | "help" :: args => readHelp args
  | arg :: _ => if isVersion arg then version else if isHelp arg then help else misuse
  | [] => misuse

example : parse none ["status", "--cluster-id=a"] = run (.status (some "a")) := by
  decide +kernel

example : parse (some "b") ["unregister"] = run (.unregister (some "b")) := by decide +kernel

example : parse none ["status", "--cluster-id", "-x"] = misuse := by decide +kernel

end CommandLine

end Enrollment
