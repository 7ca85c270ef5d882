import BuildConductor.ConfigFile

/-! Everything that can end the work of a tool. -/
namespace BuildConductor

inductive Failure where
  | config (e : ConfigError)
  | build (e : BuildError)
  /-- A path cannot be made absolute. -/
  | path (path : Path) (e : Path.AbsoluteError)
  | prompt (e : PromptError)
  | file (e : FileError)

/-- What failed and why, on one line. -/
def Failure.message : Failure → String
  | .config (.format e) => e.message
  | .config (.read source fault) => (ConfigError.read source fault).summary ++ ": " ++ fault.message
  | .build e => e.message
  | .path relative e => s!"failed to resolve path: {relative.text}: {e.message}"
  | .prompt e => e.message
  | .file e => e.message

/-- A path seen from the current directory. -/
def Path.absoluteFrom (current path : Path) : Except Failure Path :=
  (Path.absolute current path).mapError (.path path)

end BuildConductor
