import BuildConductor.Rehearsal.Basic

/-! Stand-ins for tools.

A toolbox is a directory of programs, each with rules for what it prints and how
it ends. Running one of them needs a directory to run it in. -/
namespace BuildConductor

/-- What a tool does if it is called with some first argument, or with any. -/
structure ToolRule where
  first : Option String
  output : Output
deriving DecidableEq, Repr

/-- A tool that was started: with which arguments, and where. -/
structure ToolCall where
  tool : String
  args : List String
  /-- The names of the directory, as they are shown. -/
  directory : List String
deriving DecidableEq, Repr

structure Toolbox where
  /-- The directory that the tools are in. -/
  home : Path
  tools : List (String × List ToolRule)
  /-- All tools that were started, oldest first. -/
  calls : List ToolCall

namespace Toolbox

def ToolRule.applies (rule : ToolRule) (args : List String) : Bool :=
  match rule.first with
  | some first => args.head? == some first
  | none => true

/-- What a tool with these rules leaves behind. -/
def outputOf (rules : List ToolRule) (args : List String) : Output :=
  match rules.find? fun rule => ToolRule.applies rule args with
  | some rule => rule.output
  | none => Rehearsal.silent ⟨some 0⟩

/-- What cannot be said to a process. -/
def nulMessage : String := "nul byte found in provided data"

/-- Why a tool cannot be started. -/
def launchFailure (toolbox : Toolbox) (call : Call) (cause : String) : LaunchFailure :=
  let file := toolbox.home.join ⟨call.command.program⟩
  ⟨[(if call.captured then "failed to spawn" else "failed to execute") ++ s!" `{file.text}`", cause]⟩

/-- The directory that a call leads to. -/
def workingDirectory (call : Call) (disk : Disk) : Except String Location :=
  if call.command.args.any fun arg => arg.toList.contains '\x00' then .error nulMessage
  else if call.directory.bytes.contains 0 then .error nulMessage
  else
    match disk.stat call.directory with
    | .error e => .error e.message
    | .ok (_, .file _) => .error SystemError.notDirectory.message
    | .ok (location, .directory _) => .ok location

def run (call : Call) (disk : Disk) (toolbox : Toolbox) : Except LaunchFailure Output × Toolbox :=
  match toolbox.tools.find? fun tool => tool.1 == call.command.program with
  | none => (.error (Command.missingTool call.command.program), toolbox)
  | some (tool, rules) =>
    match workingDirectory call disk with
    | .error cause => (.error (toolbox.launchFailure call cause), toolbox)
    | .ok location =>
      (.ok (outputOf rules call.command.args),
        {toolbox with calls := toolbox.calls ++
          [⟨tool, call.command.args, location.map SystemText.text⟩]})

def executor : Executor Toolbox where
  run call disk toolbox :=
    let (answer, toolbox) := toolbox.run call disk
    (answer, disk, toolbox)

end Toolbox

end BuildConductor
