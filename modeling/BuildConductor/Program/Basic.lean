import BuildConductor.CommandLine.Reader
import BuildConductor.Failure

/-! Programs: how they end, and what they write.

A program writes what its log tells to two streams. Results, questions and the
output of commands go to the first; everything about the run goes to the second,
with the errors of commands among it. -/
namespace BuildConductor

/-- How a program ends. -/
inductive Ending where
  | done
  /-- The command line was not followed. -/
  | stopped (stop : CommandLine.Stop)
  | failed (failure : Failure)

/-- What the caller is told. -/
def Ending.exitCode : Ending → Nat
  | .done => 0
  | .stopped .help | .stopped .version => 0
  | .stopped (.error _) => 2
  | .failed _ => 1

structure Streams where
  out : String
  err : String
deriving DecidableEq, Repr

/-- What is shown of a log. -/
structure View where
  shell : Shell
  /-- Whether notes about the inside of the run are shown. -/
  tracing : Bool
  /-- The time that everything takes. -/
  elapsed : Duration
deriving DecidableEq, Repr

namespace View

/-- A character of a note. Those that a terminal obeys are spelled out. -/
def traceChar (c : Char) : List Char :=
  if c.toNat ∈ [0x07, 0x08, 0x0C, 0x1B, 0x7F] then
    ['\\', 'x', Nat.digitChar (c.toNat / 16), Nat.digitChar (c.toNat % 16)]
  else if 0x80 ≤ c.toNat ∧ c.toNat ≤ 0x9F then
    ['\\', 'u', '\x7b', Nat.digitChar (c.toNat / 16), Nat.digitChar (c.toNat % 16), '\x7d']
  else
    [c]

def traceLine (message : String) : String :=
  "DEBUG " ++ String.ofList (message.toList.flatMap traceChar) ++ "\n"

/-- The note about a command that is run. -/
def callNote (call : Call) : String :=
  (if call.captured then "capturing" else "running") ++
    s!" `{call.command.display}` in {call.directory.text}"

/-- What a command wrote, unless that was captured. -/
def passedOn (call : Call) (answer : Except LaunchFailure Output) : Streams :=
  match call.captured, answer with
  | false, .ok output => ⟨output.stdout, output.stderr⟩
  | _, _ => ⟨"", ""⟩

/-- What an event adds to the first stream. -/
def out : Event → String
  | .printed text => text
  | .asked _ shown => shown
  | .ran call answer => (passedOn call answer).out
  | _ => ""

/-- What an event adds to the second stream. -/
def err (view : View) (event : Event) : String :=
  match event with
  | .traced message => if view.tracing then traceLine message else ""
  | .ran call answer =>
    (if view.tracing then traceLine (callNote call) else "") ++ (passedOn call answer).err
  | event => view.shell.text view.elapsed [event]

def streams (view : View) (log : List Event) : Streams :=
  ⟨String.join (log.map out), String.join (log.map view.err)⟩

end View

/-- What remains of a run: how it ended, what it wrote, and the world it left. -/
structure Finish (ε π : Type) where
  ending : Ending
  streams : Streams
  world : World ε π

/-- A program for settings of some kind. -/
structure Program (σ : Type) where
  name : String
  parameters : List (CommandLine.Parameter σ)
  /-- The settings of an empty command line. -/
  settings : σ
  /-- How a run with some settings is shown, on a terminal or not. -/
  view : σ → Bool → Duration → View
  /-- What is said at the end about a failure. -/
  complaint : View → Failure → String

namespace Program
variable {σ ε π : Type}

def version : String := "0.1.0"

/-- The line of the help about a parameter. -/
def helpLine (p : CommandLine.Parameter σ) : String :=
  let letter := match p.letter with
    | some c => String.ofList ['-', c, ',', ' ']
    | none => "    "
  "  " ++ letter ++ p.display ++ "\n"

def help (program : Program σ) : String :=
  s!"Usage: {program.name} [OPTIONS]\n\nOptions:\n" ++ String.join (program.parameters.map helpLine)

/-- What is written where the command line is not followed. -/
def stopped (program : Program σ) (terminal : Bool) : CommandLine.Stop → Streams
  | .help => ⟨program.help, ""⟩
  | .version => ⟨s!"{program.name} {version}\n", ""⟩
  | .error e => ⟨"", e.text terminal⟩

/-- Runs a program: reads its command line, and does what the settings ask for. -/
def run (program : Program σ) (act : σ → Task ε π Failure Unit) (arguments : List String)
    (lookup : String → Option String) (terminal : Bool) (elapsed : Duration) (crew : Crew ε π)
    (world : World ε π) : Finish ε π :=
  match CommandLine.read program.parameters program.settings arguments lookup with
  | .error stop => ⟨.stopped stop, program.stopped terminal stop, world⟩
  | .ok settings =>
    let view := program.view settings terminal elapsed
    match act settings crew world with
    | (.ok (), world) => ⟨.done, view.streams world.log, world⟩
    | (.error failure, world) =>
      let streams := view.streams world.log
      ⟨.failed failure, {streams with err := streams.err ++ program.complaint view failure}, world⟩

end Program

end BuildConductor
