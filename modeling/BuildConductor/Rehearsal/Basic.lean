import BuildConductor.Task

/-! Rehearsed commands.

Instead of running anything, a rehearsal answers commands from a list of
expectations and keeps a record of every call. -/
namespace BuildConductor

/-- What is said about a tool that is not installed. -/
def Command.missingTool (program : String) : LaunchFailure :=
  ⟨[s!"`{program}` not found in PATH"]⟩

/-- Which commands are meant, by the text that shows them. -/
inductive Pattern where
  | exact (text : String)
  | startsWith (text : String)
  | any
deriving DecidableEq, Repr

def Pattern.matches (pattern : Pattern) (display : String) : Bool :=
  match pattern with
  | .exact text => display == text
  | .startsWith text => text.toList.isPrefixOf display.toList
  | .any => true

/-- An answer that is ready for some commands. -/
structure Expectation where
  pattern : Pattern
  answer : Except LaunchFailure Output
  /-- How often it can be used, if not without limit. -/
  limit : Option Nat
  used : Nat

namespace Expectation

def isAvailable (e : Expectation) : Bool :=
  match e.limit with
  | some limit => e.used < limit
  | none => true

/-- Whether the answer is given to a command. -/
def fits (e : Expectation) (display : String) : Bool :=
  e.pattern.matches display && e.isAvailable

/-- The answer of the first expectation that fits, and all of them after its use. -/
def useFirst (display : String) :
    List Expectation → Option (Except LaunchFailure Output × List Expectation)
  | [] => none
  | e :: rest =>
    if e.fits display then some (e.answer, {e with used := e.used + 1} :: rest)
    else (useFirst display rest).map fun r => (r.1, e :: r.2)

end Expectation

structure Rehearsal where
  /-- The first that fits counts. -/
  expectations : List Expectation
  /-- The answer to commands that no expectation fits. -/
  fallback : Option Output
  /-- Tools that cannot be run. -/
  missing : List String
  /-- All calls, oldest first. -/
  calls : List Call

/-- An expectation that was not used as often as it was meant to be. -/
structure Unmet where
  index : Nat
  used : Nat
  limit : Nat
deriving DecidableEq, Repr

def Unmet.message (unmet : Unmet) : String :=
  s!"expectation {unmet.index} was used {unmet.used} times, expected {unmet.limit}"

namespace Rehearsal

def empty : Rehearsal := ⟨[], none, [], []⟩

/-- An output without text. -/
def silent (status : ExitStatus) : Output := ⟨status, "", ""⟩

/-- The answer to a call that has been recorded. -/
def answer (rehearsal : Rehearsal) (command : Command) :
    Except LaunchFailure Output × Rehearsal :=
  if rehearsal.missing.contains command.program then
    (.error (Command.missingTool command.program), rehearsal)
  else
    match Expectation.useFirst command.display rehearsal.expectations with
    | some (answer, expectations) => (answer, {rehearsal with expectations := expectations})
    | none =>
      match rehearsal.fallback with
      | some output => (.ok output, rehearsal)
      | none => (.error ⟨["unexpected command: " ++ command.display]⟩, rehearsal)

/-- Records a call and answers it. -/
def run (call : Call) (rehearsal : Rehearsal) : Except LaunchFailure Output × Rehearsal :=
  {rehearsal with calls := rehearsal.calls ++ [call]}.answer call.command

/-- Rehearsed commands do nothing to the disk. -/
def executor : Executor Rehearsal where
  run call disk rehearsal :=
    let (answer, rehearsal) := rehearsal.run call
    (answer, disk, rehearsal)

/-- The texts of all commands, oldest first. -/
def commands (rehearsal : Rehearsal) : List String :=
  rehearsal.calls.map fun call => call.command.display

/-- Whether some command began with a text. -/
def ran (rehearsal : Rehearsal) (start : String) : Bool :=
  rehearsal.commands.any (Pattern.startsWith start).matches

/-- The first expectation, from an index on, that was not used as often as it was
meant to be. -/
def firstUnmet (index : Nat) : List Expectation → Option Unmet
  | [] => none
  | e :: rest =>
    match e.limit with
    | some limit => if e.used = limit then firstUnmet (index + 1) rest else some ⟨index, e.used, limit⟩
    | none => firstUnmet (index + 1) rest

/-- Every expectation with a limit has to be used exactly that often. -/
def verify (rehearsal : Rehearsal) : Except Unmet Unit :=
  match firstUnmet 0 rehearsal.expectations with
  | some unmet => .error unmet
  | none => .ok ()

end Rehearsal

end BuildConductor
