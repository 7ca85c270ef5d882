import BuildConductor.Task

/-! Running a plan.

Every step runs in the build directory. The failure of a step ends the run or is
reported and left behind, as the policy of the step says. -/
namespace BuildConductor

/-- The word that announces a step. -/
def StepKind.status : StepKind → Status
  | .configure => .configuring
  | .build => .building
  | .test => .testing
  | .install => .installing

/-- How a step ended that did not end the run. -/
inductive StepOutcome where
  | succeeded
  | failed (e : BuildError)
deriving DecidableEq, Repr

/-- What is wrong with the answer to the command of a step, if anything is. A
command that could not be run has failed like any other. -/
def Step.fault (step : Step) : Except LaunchFailure Output → Option BuildError
  | .error failure => some (.spawn step.command.display failure.message)
  | .ok output =>
    if output.status.success then none
    else some (.stepFailed step.kind step.command.display output.status)

/-- A run that was not ended by a failure. -/
structure Report where
  /-- The steps that succeeded. -/
  completed : List StepKind
  /-- The failures that were left behind. -/
  advisories : List BuildError
  /-- Whether a build directory was there to be removed. -/
  cleaned : Bool
deriving DecidableEq, Repr

namespace Report

def start (cleaned : Bool) : Report := ⟨[], [], cleaned⟩

def allPassed (report : Report) : Bool :=
  report.advisories.isEmpty

/-- The report after one more step. -/
def add (report : Report) (kind : StepKind) : StepOutcome → Report
  | .succeeded => {report with completed := report.completed ++ [kind]}
  | .failed e => {report with advisories := report.advisories ++ [e]}

end Report

variable {ε π : Type}

/-- What the failure of a step leads to. -/
def Step.handle (step : Step) (e : BuildError) : Task ε π BuildError StepOutcome := do
  match step.policy with
  | .abort => Task.fail e
  | .report =>
    Task.trace s!"{step.kind.name} step failed, continuing"
    Task.warn s!"{e.message}; continuing"
    pure (.failed e)

/-- Announces a step, runs its command, and judges the answer. -/
def Step.run (step : Step) (directory : Path) : Task ε π BuildError StepOutcome := do
  Task.say step.kind.status step.command.display
  Task.note (.remarked s!"working directory {directory.text}")
  let answer ← Task.execute ⟨step.command, directory, false⟩
  match step.fault answer with
  | some e => step.handle e
  | none =>
    Task.note (.finished s!"{step.kind.name} step")
    pure .succeeded

/-- Runs steps in order and adds what became of them to a report. -/
def runSteps (directory : Path) : List Step → Report → Task ε π BuildError Report
  | [], report => pure report
  | step :: rest, report => do
    let outcome ← step.run directory
    runSteps directory rest (report.add step.kind outcome)

/-- An error that is about a directory. -/
def BuildError.ofFile (path : Path) (e : FileError) : BuildError :=
  .filesystem path e.message

namespace Plan

/-- Removes the build directory, and says whether it was there. -/
def clean (plan : Plan) : Task ε π BuildError Bool := do
  let removed ← (Task.onDisk fun disk => disk.removeIfExists plan.buildDir).mapError
    (.ofFile plan.buildDir)
  if removed then Task.say .removed plan.buildDir.text
  pure removed

/-- Makes the build directory ready, after removing it if that is wanted. -/
def prepare (plan : Plan) (clean : Bool) : Task ε π BuildError Bool := do
  let cleaned ← if clean then plan.clean else pure false
  (Task.onDisk fun disk => disk.ensureDirectory plan.buildDir).mapError (.ofFile plan.buildDir)
  pure cleaned

/-- Configures, builds and, where that is planned, tests. -/
def run (plan : Plan) (clean : Bool) : Task ε π BuildError Report := do
  let cleaned ← plan.prepare clean
  runSteps plan.buildDir plan.pipeline (.start cleaned)

/-- Runs the install step, for which a build directory has to be there. -/
def runInstall (plan : Plan) : Task ε π BuildError Unit := do
  if ← Task.inspect fun disk => disk.isDirectory plan.buildDir then
    match ← plan.install.run plan.buildDir with
    | .succeeded => pure ()
    | .failed e => Task.fail e
  else
    Task.fail (.notConfigured plan.buildDir)

end Plan

end BuildConductor
