import BuildConductor.Failure
import BuildConductor.Pipeline
import BuildConductor.Submodule

/-! Building, installing, and fetching submodules.

Before a build the submodules are looked at, since the build tool would fail much
later and less clearly without them. Not being able to look is no reason to stop. -/
namespace BuildConductor

/-- What a build was asked for. -/
structure BuildRequest where
  sourceDir : Path := ⟨"."⟩
  /-- A directory in the source tree, unless another is given. -/
  buildDir : Option Path := none
  jobs : Option Nat := none
  generator : Option String := none
  clean : Bool := false
  submoduleCheck : Bool := true
deriving DecidableEq, Repr

/-- What is known about the machine: its platform, and how many jobs it runs at
once. -/
structure Machine where
  platform : Platform
  jobs : Nat
deriving DecidableEq, Repr

/-- A machine that runs a job on each of its processors. How many it has need not be
known. -/
def Machine.ofProcessors (platform : Platform) (processors : Option {count : Nat // 0 < count}) :
    Machine :=
  ⟨platform, processors.elim fallbackJobs Subtype.val⟩

/-- The build directory that is used where none is given. -/
def defaultBuildDir : Path := ⟨"build"⟩

/-- The file in a source tree that tells of its submodules. -/
def submoduleFile : Path := ⟨".gitmodules"⟩

namespace BuildRequest

/-- The build directory, seen from the current one. -/
def absoluteBuildDir (request : BuildRequest) (current sourceDir : Path) : Except Failure Path :=
  match request.buildDir with
  | some dir => current.absoluteFrom dir
  | none => .ok (sourceDir.join defaultBuildDir)

/-- Settings with absolute directories. What was not asked for is taken from the
machine. -/
def settings (request : BuildRequest) (machine : Machine) (current : Path) :
    Except Failure Settings := do
  let sourceDir ← current.absoluteFrom request.sourceDir
  let buildDir ← request.absoluteBuildDir current sourceDir
  let settings : Settings := ⟨machine.platform, sourceDir, buildDir, machine.jobs, request.generator⟩
  pure (match request.jobs with
    | some jobs => settings.withJobs jobs
    | none => settings)

end BuildRequest

variable {ε π : Type}

/-- The settings of a request where the work is done. -/
def BuildRequest.resolve (request : BuildRequest) (machine : Machine) :
    Task ε π Failure Settings := do
  let current ← Task.inspect Disk.currentPath
  Task.ofExcept (request.settings machine current)

namespace Document

/-- The plan for a request. -/
def planFor (doc : Document) (request : BuildRequest) (machine : Machine) :
    Task ε π Failure Plan := do
  let settings ← request.resolve machine
  let plan := doc.plan settings
  Task.trace
    s!"planned {plan.pipeline.length} step(s) for {plan.platform.name} ({plan.buildType})"
  pure plan

end Document

namespace Submodule

/-- Names the submodules that are missing. -/
def announce (missing : List Submodule) : Task ε π Failure Unit := do
  Task.warn s!"{missing.length} uninitialized submodule(s):"
  Task.sayAll .info (fun submodule => "  - " ++ submodule.path) missing

/-- Names the submodules that are missing and offers to initialize them. -/
def offer (sourceDir : Path) (missing : List Submodule) : Task ε π Failure Unit := do
  announce missing
  if ← (Task.confirm "Initialize submodules?" false).mapError .prompt then
    Task.say .updating "submodules"
    (init sourceDir).mapError .build
  else
    Task.say .skipped "submodule initialization"

/-- Looks for submodules that are missing, if the source tree has any. -/
def check (sourceDir : Path) : Task ε π Failure Unit := do
  if ← Task.inspect fun disk => disk.contains (sourceDir.join submoduleFile) then
    match ← Task.attempt (query sourceDir) with
    | .error e => Task.warn s!"{e.message}; skipping submodule check"
    | .ok found =>
      match uninitialized found with
      | [] => pure ()
      | missing => offer sourceDir missing
  else
    Task.trace s!"no .gitmodules in {sourceDir.text}"

end Submodule

namespace Document

/-- Looks for missing submodules if that was asked for. -/
def checkSubmodules (request : BuildRequest) : Task ε π Failure Unit := do
  if request.submoduleCheck then
    let current ← Task.inspect Disk.currentPath
    let sourceDir ← Task.ofExcept (current.absoluteFrom request.sourceDir)
    Submodule.check sourceDir

/-- Says how a build ended. -/
def conclude (plan : Plan) (report : Report) : Task ε π Failure Unit :=
  if report.allPassed then Task.say .finished s!"{plan.buildType} build"
  else Task.warn s!"{plan.buildType} build finished with failing tests"

/-- Configures, builds and tests. Failing tests are reported and are no error. -/
def build (doc : Document) (request : BuildRequest) (machine : Machine) :
    Task ε π Failure Report := do
  Task.sayAll .warning Warning.message doc.warnings
  let plan ← doc.planFor request machine
  Task.trace s!"building in {plan.buildDir.text} with {plan.pipeline.length} step(s)"
  checkSubmodules request
  let report ← (plan.run request.clean).mapError .build
  conclude plan report
  pure report

/-- Installs what was built. -/
def install (doc : Document) (request : BuildRequest) (machine : Machine) :
    Task ε π Failure Unit := do
  let plan ← doc.planFor request machine
  plan.runInstall.mapError .build
  Task.say .finished "install"

end Document

/-- Initializes all submodules of the source tree. -/
def BuildRequest.initSubmodules (request : BuildRequest) : Task ε π Failure Unit := do
  let current ← Task.inspect Disk.currentPath
  let sourceDir ← Task.ofExcept (current.absoluteFrom request.sourceDir)
  Task.say .updating "submodules"
  (Submodule.init sourceDir).mapError .build
  Task.say .finished "submodule initialization"

end BuildConductor
