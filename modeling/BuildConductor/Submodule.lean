import BuildConductor.Task
import BuildConductor.Text.Lines

/-! Submodules.

Third-party sources are kept as submodules of the source tree. Their state is
listed one a line: a mark, an identifier, and a path, with more behind it where
the mark allows it. -/
namespace BuildConductor

inductive SubmoduleState where
  /-- At the commit that is recorded. -/
  | current
  | uninitialized
  /-- At some other commit. -/
  | modified
  | conflict
deriving DecidableEq, Repr

namespace SubmoduleState

def name : SubmoduleState → String
  | .current => "current"
  | .uninitialized => "uninitialized"
  | .modified => "modified"
  | .conflict => "conflict"

/-- The state that a mark stands for. -/
def ofMark? (c : Char) : Option SubmoduleState :=
  if c = ' ' then some .current
  else if c = '-' then some .uninitialized
  else if c = '+' then some .modified
  else if c = 'U' then some .conflict
  else none

end SubmoduleState

structure Submodule where
  path : String
  state : SubmoduleState
deriving DecidableEq, Repr

namespace Submodule

/-- The submodule that a line tells of. -/
def ofLine? : List Char → Option Submodule
  | [] => none
  | mark :: rest =>
    match SubmoduleState.ofMark? mark, Text.words rest with
    | some state, _ :: path :: _ => some ⟨String.ofList path, state⟩
    | _, _ => none

/-- The submodules that a text tells of. Lines of any other form are passed over. -/
def ofStatus (text : String) : List Submodule :=
  (Text.lines text.toList).filterMap ofLine?

def isUninitialized (submodule : Submodule) : Bool :=
  submodule.state == .uninitialized

/-- The submodules that were never checked out. -/
def uninitialized (submodules : List Submodule) : List Submodule :=
  submodules.filter isUninitialized

/-- The tool that knows about submodules. -/
def tool : String := "git"

def statusCommand : Command :=
  ⟨tool, ["submodule", "status"]⟩

def initCommand : Command :=
  ⟨tool, ["submodule", "update", "--init", "--recursive"]⟩

/-- What is wrong with the end of a query, if anything is. -/
def queryFault (output : Output) : Option BuildError :=
  if output.status.success then none
  else
    let said := Text.trim output.stderr
    some (.submoduleQueryFailed
      (if said.isEmpty then
        s!"`{statusCommand.display}` exited with {output.status.message}"
      else said))

variable {ε π : Type}

/-- The submodules of a source tree. -/
def query (sourceDir : Path) : Task ε π BuildError (List Submodule) := do
  match ← Task.execute ⟨statusCommand, sourceDir, true⟩ with
  | .error failure => Task.fail (.submoduleQueryFailed failure.message)
  | .ok output =>
    match queryFault output with
    | some e => Task.fail e
    | none =>
      let submodules := ofStatus output.stdout
      Task.trace s!"found {submodules.length} submodule(s)"
      pure submodules

/-- Initializes all submodules of a source tree and theirs. -/
def init (sourceDir : Path) : Task ε π BuildError Unit := do
  match ← Task.execute ⟨initCommand, sourceDir, false⟩ with
  | .error failure => Task.fail (.spawn initCommand.display failure.message)
  | .ok output =>
    if output.status.success then pure ()
    else Task.fail (.submoduleInitFailed initCommand.display output.status)

end Submodule

end BuildConductor
