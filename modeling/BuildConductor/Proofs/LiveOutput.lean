import BuildConductor.Build

/-! Runs that print while they go.

A run keeps a log that says everything, and what is printed of it is decided afterwards.
Here the same work is written for a console that asks its shell each time, when a line is
due: what the shell does not let through is never said, and the remark about the working
directory is made only to those who want to know everything. Commands, questions and the
disk are used as before. -/
namespace BuildConductor

/-- A shell, and the time that everything takes. -/
structure Console where
  shell : Shell
  elapsed : Duration

namespace Console
variable {ε π E : Type}

/-! ### Lines -/

/-- A line, unless only what matters is wanted. -/
def status (console : Console) (status : Status) (message : String) : Task ε π E Unit :=
  if console.shell.isQuiet && !status.isImportant then pure () else Task.say status message

def note (console : Console) (message : String) : Task ε π E Unit :=
  console.status .info message

def warn (console : Console) (message : String) : Task ε π E Unit :=
  console.status .warning message

/-- The line behind something that took its time. -/
def finish (console : Console) (what : String) : Task ε π E Unit :=
  console.status .finished s!"{what} in {console.elapsed.text}"

/-- Tells where a step runs, if the shell wants to know everything. -/
def remark (console : Console) (directory : Path) : Task ε π E Unit :=
  if console.shell.isVerbose then console.note s!"working directory {directory.text}" else pure ()

/-- A line about every item of a list. -/
def statusAll {α : Type} (console : Console) (status : Status) (message : α → String) :
    List α → Task ε π E Unit
  | [] => pure ()
  | a :: rest => do
    console.status status (message a)
    console.statusAll status message rest

/-! ### Steps -/

def handle (console : Console) (step : Step) (e : BuildError) : Task ε π BuildError StepOutcome := do
  match step.policy with
  | .abort => Task.fail e
  | .report =>
    Task.trace s!"{step.kind.name} step failed, continuing"
    console.warn s!"{e.message}; continuing"
    pure (.failed e)

def runStep (console : Console) (step : Step) (directory : Path) :
    Task ε π BuildError StepOutcome := do
  console.status step.kind.status step.command.display
  console.remark directory
  let answer ← Task.execute ⟨step.command, directory, false⟩
  match step.fault answer with
  | some e => console.handle step e
  | none =>
    console.finish s!"{step.kind.name} step"
    pure .succeeded

def runSteps (console : Console) (directory : Path) :
    List Step → Report → Task ε π BuildError Report
  | [], report => pure report
  | step :: rest, report => do
    let outcome ← console.runStep step directory
    console.runSteps directory rest (report.add step.kind outcome)

def clean (console : Console) (plan : Plan) : Task ε π BuildError Bool := do
  let removed ← (Task.onDisk fun disk => disk.removeIfExists plan.buildDir).mapError
    (.ofFile plan.buildDir)
  if removed then console.status .removed plan.buildDir.text
  pure removed

def prepare (console : Console) (plan : Plan) (clean : Bool) : Task ε π BuildError Bool := do
  let cleaned ← if clean then console.clean plan else pure false
  (Task.onDisk fun disk => disk.ensureDirectory plan.buildDir).mapError (.ofFile plan.buildDir)
  pure cleaned

def run (console : Console) (plan : Plan) (clean : Bool) : Task ε π BuildError Report := do
  let cleaned ← console.prepare plan clean
  console.runSteps plan.buildDir plan.pipeline (.start cleaned)

def runInstall (console : Console) (plan : Plan) : Task ε π BuildError Unit := do
  if ← Task.inspect fun disk => disk.isDirectory plan.buildDir then
    match ← console.runStep plan.install plan.buildDir with
    | .succeeded => pure ()
    | .failed e => Task.fail e
  else
    Task.fail (.notConfigured plan.buildDir)

/-! ### Submodules -/

def announce (console : Console) (missing : List Submodule) : Task ε π Failure Unit := do
  console.warn s!"{missing.length} uninitialized submodule(s):"
  console.statusAll .info (fun submodule => "  - " ++ submodule.path) missing

def offer (console : Console) (sourceDir : Path) (missing : List Submodule) :
    Task ε π Failure Unit := do
  console.announce missing
  if ← (Task.confirm "Initialize submodules?" false).mapError .prompt then
    console.status .updating "submodules"
    (Submodule.init sourceDir).mapError .build
  else
    console.status .skipped "submodule initialization"

def check (console : Console) (sourceDir : Path) : Task ε π Failure Unit := do
  if ← Task.inspect fun disk => disk.contains (sourceDir.join submoduleFile) then
    match ← Task.attempt (Submodule.query sourceDir) with
    | .error e => console.warn s!"{e.message}; skipping submodule check"
    | .ok found =>
      match Submodule.uninitialized found with
      | [] => pure ()
      | missing => console.offer sourceDir missing
  else
    Task.trace s!"no .gitmodules in {sourceDir.text}"

def checkSubmodules (console : Console) (request : BuildRequest) : Task ε π Failure Unit := do
  if request.submoduleCheck then
    let current ← Task.inspect Disk.currentPath
    let sourceDir ← Task.ofExcept (current.absoluteFrom request.sourceDir)
    console.check sourceDir

/-! ### Operations -/

def conclude (console : Console) (plan : Plan) (report : Report) : Task ε π Failure Unit :=
  if report.allPassed then console.status .finished s!"{plan.buildType} build"
  else console.warn s!"{plan.buildType} build finished with failing tests"

def build (console : Console) (doc : Document) (request : BuildRequest) (machine : Machine) :
    Task ε π Failure Report := do
  console.statusAll .warning Document.Warning.message doc.warnings
  let plan ← doc.planFor request machine
  Task.trace s!"building in {plan.buildDir.text} with {plan.pipeline.length} step(s)"
  console.checkSubmodules request
  let report ← (console.run plan request.clean).mapError .build
  console.conclude plan report
  pure report

def install (console : Console) (doc : Document) (request : BuildRequest) (machine : Machine) :
    Task ε π Failure Unit := do
  let plan ← doc.planFor request machine
  (console.runInstall plan).mapError .build
  console.status .finished "install"

def initSubmodules (console : Console) (request : BuildRequest) : Task ε π Failure Unit := do
  let current ← Task.inspect Disk.currentPath
  let sourceDir ← Task.ofExcept (current.absoluteFrom request.sourceDir)
  console.status .updating "submodules"
  (Submodule.init sourceDir).mapError .build
  console.status .finished "submodule initialization"

end Console

end BuildConductor
