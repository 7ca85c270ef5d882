import BuildConductor.BuildError
import BuildConductor.Console
import BuildConductor.Disk.Operations
import BuildConductor.Prompt

/-! Work that touches the world.

A task runs commands, asks questions and changes the disk. What it notices and
says goes into the log, and an error keeps everything that was done before it.
Who runs commands and who answers is left open: any crew will do. -/
namespace BuildConductor

/-- Somebody who runs commands. An answer may depend on the disk and on
everything that was run before, and running a command may change the disk. -/
structure Executor (ε : Type) where
  run : Call → Disk → ε → Except LaunchFailure Output × Disk × ε

/-- Those who do what a task asks for. -/
structure Crew (ε π : Type) where
  executor : Executor ε
  prompter : Prompter π

/-- What a task works on: the disk, the states of its crew, and the log, oldest
event first. -/
structure World (ε π : Type) where
  disk : Disk
  tools : ε
  user : π
  log : List Event

/-- Work with a crew that ends with a result or an error, in a changed world. -/
def Task (ε π E α : Type) : Type :=
  Crew ε π → World ε π → Except E α × World ε π

namespace Task
variable {ε π E F α β : Type}

protected def pure (a : α) : Task ε π E α :=
  fun _ world => (.ok a, world)

/-- One task after another; an error ends both. -/
def andThen (task : Task ε π E α) (next : α → Task ε π E β) : Task ε π E β :=
  fun crew world =>
    match task crew world with
    | (.ok a, world) => next a crew world
    | (.error e, world) => (.error e, world)

/-- What comes after a task that succeeds begins where that one left the world. -/
theorem andThen_ok {task : Task ε π E α} {next : α → Task ε π E β} {crew : Crew ε π}
    {world left : World ε π} {a : α} (h : task crew world = (.ok a, left)) :
    andThen task next crew world = next a crew left := by
  unfold andThen
  rw [h]

/-- Nothing comes after a task that fails. -/
theorem andThen_error {task : Task ε π E α} {next : α → Task ε π E β} {crew : Crew ε π}
    {world left : World ε π} {e : E} (h : task crew world = (.error e, left)) :
    andThen task next crew world = (.error e, left) := by
  unfold andThen
  rw [h]

instance : Monad (Task ε π E) where
  pure := Task.pure
  bind := andThen

/-- A result or an error that is known already. -/
def ofExcept (result : Except E α) : Task ε π E α :=
  fun _ world => (result, world)

def fail (e : E) : Task ε π E α :=
  ofExcept (.error e)

/-- A task whose error is a result. -/
def attempt (task : Task ε π E α) : Task ε π F (Except E α) :=
  fun crew world =>
    let (result, world) := task crew world
    (.ok result, world)

def mapError (f : E → F) (task : Task ε π E α) : Task ε π F α :=
  fun crew world =>
    let (result, world) := task crew world
    (result.mapError f, world)

/-- Adds an event to the log. -/
def note (event : Event) : Task ε π E Unit :=
  fun _ world => (.ok (), {world with log := world.log ++ [event]})

def say (status : Status) (message : String) : Task ε π E Unit :=
  note (.said status message)

def warn (message : String) : Task ε π E Unit :=
  say .warning message

def trace (message : String) : Task ε π E Unit :=
  note (.traced message)

/-- Says something about every item of a list. -/
def sayAll (status : Status) (message : α → String) : List α → Task ε π E Unit
  | [] => pure ()
  | a :: rest => do
    say status (message a)
    sayAll status message rest

/-- Something that the disk tells. -/
def inspect (f : Disk → α) : Task ε π E α :=
  fun _ world => (.ok (f world.disk), world)

/-- Something that is done to the disk. -/
def onDisk (f : Disk → Except E α × Disk) : Task ε π E α :=
  fun _ world =>
    let (result, disk) := f world.disk
    (result, {world with disk := disk})

/-- Runs a command. -/
def execute (call : Call) : Task ε π E (Except LaunchFailure Output) :=
  fun crew world =>
    let (answer, disk, tools) := crew.executor.run call world.disk world.tools
    (.ok answer,
      {world with disk := disk, tools := tools, log := world.log ++ [.ran call answer]})

/-- Asks a question. -/
def ask (question : String) : Task ε π PromptError String :=
  fun crew world =>
    let (reply, user) := crew.prompter.ask question world.user
    (reply.answer, {world with user := user, log := world.log ++ [.asked question reply.shown]})

/-- Asks a yes-or-no question. -/
def confirm (question : String) (default : Bool) : Task ε π PromptError Bool := do
  let answer ← ask (confirmQuestion question default)
  pure (isConfirmed default answer)

end Task

end BuildConductor
