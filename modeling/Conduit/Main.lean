import Conduit.Command.Levels
import Conduit.Command.Run
import Conduit.Data.Identifier

/-!
# The program

Reads the arguments and the environment, runs the command and reports. This build carries no
transport, so every worker and every broker refuses the connection. The exit code is 1 for a
command that fails and 2 for arguments that are refused.
-/
namespace Conduit

/-- A network on which nothing answers. -/
def silence : Network Unit := ⟨fun _ state => (.refused, state)⟩

/-- A cluster that nobody reaches. -/
def unreached : Cluster := .bare "" 0

/-- The environment variables that options may come from. -/
def consultedVariables : List String := ["OHARA_WORKERS", "OHARA_BROKERS"]

def readEnvironment : IO Settings := do
  let entries ← consultedVariables.filterMapM fun name => do
    return (← IO.getEnv name).map fun value => (name, value)
  return .ofList entries

/-- An identifier drawn at random. -/
def drawIdentifier : IO String := do
  return identifierOf (← IO.rand 0 (Nat.pow 2 128 - 1))

/-- The commands at the top. -/
def overview : String :=
  "commands: " ++ Text.joined ", " (Command.rootLevel.commands.map Outline.name)

def report (fault : UsageFault) : IO UInt32 := do
  if fault = .help then
    IO.println overview
    return 0
  IO.eprintln s!"error: {fault.message}"
  return 2

def runMain (arguments : List String) : IO UInt32 := do
  match Command.parse (← readEnvironment) arguments with
  | .error fault => report fault
  | .ok command =>
    let chance ← drawIdentifier
    let (result, session) := (command.run silence chance).run ⟨⟨0, ()⟩, unreached, []⟩
    for line in session.printed do
      IO.println line
    match result with
    | .ok () => return 0
    | .error fault =>
      IO.eprintln s!"Error: {fault.message}"
      return 1

end Conduit

def main (arguments : List String) : IO UInt32 := Conduit.runMain arguments
