import BuildConductor.Path
import BuildConductor.Text.Blank

/-! Commands, and how they end.

A command is shown with its arguments behind it; an argument that is empty or
holds a blank is put between quotes. -/
namespace BuildConductor

structure Command where
  program : String
  args : List String
deriving DecidableEq, Repr

namespace Command

/-- An argument as it is shown. -/
def showArg (arg : String) : List Char :=
  if arg.isEmpty || arg.toList.any Text.isBlank then '"' :: arg.toList ++ ['"'] else arg.toList

def showArgs (args : List String) : List Char :=
  args.flatMap fun arg => ' ' :: showArg arg

def display (command : Command) : String :=
  String.ofList (command.program.toList ++ showArgs command.args)

def hasArg (command : Command) (arg : String) : Bool :=
  command.args.contains arg

end Command

/-- How a process ended: with an exit code, or by a signal. -/
structure ExitStatus where
  code : Option Int
deriving DecidableEq, Repr

namespace ExitStatus

def success (status : ExitStatus) : Bool :=
  status.code == some 0

def message (status : ExitStatus) : String :=
  match status.code with
  | some code => s!"exit code {code}"
  | none => "terminated by signal"

end ExitStatus

/-- What a process left behind. -/
structure Output where
  status : ExitStatus
  stdout : String
  stderr : String
deriving DecidableEq, Repr

/-- Why a command could not be run at all: a cause in its contexts, the outermost
first. -/
structure LaunchFailure where
  chain : List String
deriving DecidableEq, Repr

def LaunchFailure.message (failure : LaunchFailure) : String :=
  String.intercalate ": " failure.chain

/-- A command run in a directory, its output captured or passed on. -/
structure Call where
  command : Command
  directory : Path
  captured : Bool
deriving DecidableEq, Repr

end BuildConductor
