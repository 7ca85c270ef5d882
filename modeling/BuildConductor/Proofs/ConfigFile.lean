import BuildConductor.ConfigFile
import BuildConductor.Proofs.Text.Encoding
import BuildConductor.Proofs.Trace

/-! Loading a configuration.

`Disk.Configures` says which document a path stands for on a disk, if it stands for
any. Loading gives just that document, and calls and asks nobody. -/
namespace BuildConductor

variable {ε π : Type}

namespace Document

theorem parse_eq_ok_iff {text : String} {path : Path} {doc : Document} :
    parse text path = .ok doc ↔ Document.read text = .ok doc := by
  unfold parse
  cases Document.read text with
  | error fault => constructor <;> intro h <;> cases h
  | ok found => constructor <;> intro h <;> cases h <;> rfl

theorem parse_of_toOption {text : String} {doc : Document}
    (h : (Document.read text).toOption = some doc) (path : Path) : parse text path = .ok doc :=
  parse_eq_ok_iff.2 (except_eq_ok_of_toOption h)

/-- What loading comes to. -/
def judgeLoad (disk : Disk) (path : Path) : Except ConfigError (Document × DocumentSource) :=
  match disk.readText path with
  | .error (.system .notFound) => .ok (standard, .builtin)
  | .error fault => .error (.read path fault)
  | .ok text =>
    match parse text path with
    | .error e => .error (.format e)
    | .ok doc => .ok (doc, .file)

theorem load_ends (path : Path) (crew : Crew ε π) (world : World ε π) :
    (load path).Ends crew world (judgeLoad world.disk path) [] [] := by
  refine (Task.ends_inspect _ crew world).andThen fun left _ => ?_
  unfold judgeLoad
  cases world.disk.readText path with
  | error fault =>
    cases fault with
    | notText => exact Task.ends_ofExcept _ crew left
    | system e =>
      cases e with
      | notFound =>
        exact (Task.ends_trace _ crew left).andThen fun traced _ => Task.ends_pure _ crew traced
      | _ => exact Task.ends_ofExcept _ crew left
  | ok text =>
    simp only
    cases parse text path with
    | error e => exact Task.ends_ofExcept _ crew left
    | ok doc =>
      exact (Task.ends_trace _ crew left).andThen fun traced _ => Task.ends_pure _ crew traced

/-- A file that holds the text of a document is loaded as that. -/
theorem judgeLoad_of_readFile {disk : Disk} {path : Path} {text : String} {doc : Document}
    (hfile : disk.readFile path = .ok text.toUTF8) (hparse : parse text path = .ok doc) :
    judgeLoad disk path = .ok (doc, .file) := by
  have htext : String.fromUTF8? text.toUTF8 = some text := Text.fromUTF8?_toUTF8 text
  simp only [judgeLoad, Disk.readText, hfile, htext, hparse]

end Document

end BuildConductor
