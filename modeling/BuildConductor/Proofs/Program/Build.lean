import BuildConductor.Program.Build
import BuildConductor.Proofs.Build
import BuildConductor.Proofs.ConfigFile

/-! How the program that builds ends.

The exit code is zero exactly where the action that was asked for succeeds. What each
action needs is said without running it, by `BuildOptions.Succeeds`. -/
namespace BuildConductor

variable {ε π : Type}

namespace BuildOptions

/-- What loading comes to. -/
def judgeLoad (options : BuildOptions) (disk : Disk) : Except Failure Document :=
  ((Document.judgeLoad disk options.config).map Prod.fst).mapError .config

theorem load_ends (options : BuildOptions) (crew : Crew ε π) (world : World ε π) :
    options.load.Ends crew world (options.judgeLoad world.disk) [] [] := by
  have hload := (Document.load_ends options.config crew world).mapError Failure.config
  unfold judgeLoad
  cases hresult : Document.judgeLoad world.disk options.config with
  | error e =>
    rw [hresult] at hload
    exact hload.bind_error _
  | ok found =>
    rw [hresult] at hload
    obtain ⟨doc, source⟩ := found
    refine hload.andThen fun left _ => ?_
    cases source with
    | file => exact Task.ends_pure doc crew left
    | builtin =>
      exact (Task.ends_say _ _ crew left).andThen fun said _ => Task.ends_pure doc crew said

end BuildOptions

end BuildConductor
