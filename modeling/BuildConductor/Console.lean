import BuildConductor.Command.Basic
import BuildConductor.Diagnostic
import BuildConductor.Text.Case

/-! What a run says, and how it is shown.

A run keeps a log of everything that can be noticed from outside. What to print
of it is decided afterwards by a shell, so that verbosity and colour cannot
change what a run does. -/
namespace BuildConductor

/-- The word that starts a line of output. -/
inductive Status where
  | created
  | finished
  | removed
  | saved
  | configuring
  | building
  | testing
  | installing
  | updating
  | info
  | skipped
  | warning
  | error
deriving DecidableEq, Repr

namespace Status

def word : Status → String
  | .created => "Created"
  | .finished => "Finished"
  | .removed => "Removed"
  | .saved => "Saved"
  | .configuring => "Configuring"
  | .building => "Building"
  | .testing => "Testing"
  | .installing => "Installing"
  | .updating => "Updating"
  | .info => "Info"
  | .skipped => "Skipped"
  | .warning => "Warning"
  | .error => "error"

/-- Green for what is done, cyan for what goes on, blue for remarks, yellow for
what asks for attention and red for errors. -/
def colorCode : Status → Nat
  | .created | .finished | .removed | .saved => 32
  | .configuring | .building | .testing | .installing | .updating => 36
  | .info => 34
  | .skipped | .warning => 33
  | .error => 31

/-- Whether a line is printed even where only what matters is. -/
def isImportant : Status → Bool
  | .warning | .error => true
  | _ => false

end Status

/-- One thing that can be noticed of a run. -/
inductive Event where
  | said (status : Status) (message : String)
  /-- A remark that only those who want to know everything see. -/
  | remarked (message : String)
  /-- Something took its time and is done. -/
  | finished (what : String)
  /-- A note for whoever follows the run inside. -/
  | traced (message : String)
  | ran (call : Call) (answer : Except LaunchFailure Output)
  /-- A question, with what asking it showed. -/
  | asked (question shown : String)
  /-- Text that is a result. -/
  | printed (text : String)

/-- How much is printed. -/
inductive Verbosity where
  | quiet
  | normal
  | verbose
deriving DecidableEq, Repr

/-- Quiet wins over verbose. -/
def Verbosity.ofFlags (quiet verbose : Bool) : Verbosity :=
  if quiet then .quiet else if verbose then .verbose else .normal

inductive ColorChoice where
  /-- Colours if the output is seen on a terminal. -/
  | auto
  | always
  | never
deriving DecidableEq, Repr

namespace ColorChoice

def name : ColorChoice → String
  | .auto => "auto"
  | .always => "always"
  | .never => "never"

/-- The choice of a name, in any letter case. -/
def ofName? (s : String) : Option ColorChoice :=
  [auto, always, never].find? fun choice => choice.name == Text.lower s

/-- What is said about a name that is none of them. -/
def unknownName (s : String) : String :=
  s!"invalid color choice '{s}'; expected 'auto', 'always', or 'never'"

def isColored (choice : ColorChoice) (terminal : Bool) : Bool :=
  match choice with
  | .auto => terminal
  | .always => true
  | .never => false

end ColorChoice

/-- A time in hundredths of a second. -/
structure Duration where
  hundredths : Nat
deriving DecidableEq, Repr

/-- Seconds with two places below a minute, minutes with one place from there on. -/
def Duration.text (d : Duration) : String :=
  if d.hundredths < 6000 then
    s!"{d.hundredths / 100}.{d.hundredths % 100 / 10}{d.hundredths % 10}s"
  else
    let tenths := (d.hundredths + 300) / 600
    s!"{tenths / 10}.{tenths % 10}m"

/-- What is printed, and how. -/
structure Shell where
  verbosity : Verbosity
  color : Bool
deriving DecidableEq, Repr

namespace Shell

def isQuiet (shell : Shell) : Bool :=
  shell.verbosity == .quiet

def isVerbose (shell : Shell) : Bool :=
  shell.verbosity == .verbose

/-- The width that status words are aligned to on the right. -/
def statusWidth : Nat := 12

def aligned (word : String) : String :=
  String.ofList (List.replicate (statusWidth - word.length) ' ') ++ word

/-- One line of output. -/
def line (shell : Shell) (status : Status) (message : String) : String :=
  painted shell.color status.colorCode (aligned status.word) ++ " " ++ message ++ "\n"

/-- The status and the message of an event, where it has them and the shell lets
them through. -/
def message? (shell : Shell) (elapsed : Duration) (event : Event) : Option (Status × String) :=
  let shown : Option (Status × String) :=
    match event with
    | .said status message => some (status, message)
    | .remarked message => if shell.isVerbose then some (.info, message) else none
    | .finished what => some (.finished, s!"{what} in {elapsed.text}")
    | _ => none
  shown.filter fun (status, _) => !shell.isQuiet || status.isImportant

/-- The lines that a shell prints of a log. -/
def messages (shell : Shell) (elapsed : Duration) (log : List Event) : List (Status × String) :=
  log.filterMap (shell.message? elapsed)

/-- The text that a shell prints of a log. -/
def text (shell : Shell) (elapsed : Duration) (log : List Event) : String :=
  String.join ((shell.messages elapsed log).map fun (status, message) => shell.line status message)

end Shell

end BuildConductor
