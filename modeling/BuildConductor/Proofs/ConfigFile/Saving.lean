import BuildConductor.Proofs.ConfigFile
import BuildConductor.Proofs.Disk.Writing

/-! Saving a configuration.

A document takes the place of what its file held, whatever that was and however long. Beside
that file only directories are new, and only such as were missing on the way to it. Where
saving fails, the way to the directory around the file may have been paved, and that is all. -/
namespace BuildConductor

variable {ε π : Type}

namespace Disk
variable {disk after : Disk} {path : Path}

/-- A file that is there can be written. -/
theorem writeText_of_hasFile (h : disk.HasFile path) (text : String) :
    (disk.writeText path text).1 = .ok () := by
  obtain ⟨location, bytes, hstat⟩ := h
  obtain ⟨hresolve, hslash⟩ := resolve_of_stat hstat
  obtain ⟨directory, last, rfl, hfinds, hlookup⟩ := exists_finds hresolve
  refine writeText_of_finds hfinds hslash ?_ text
  rw [content?_eq_file.2 hlookup]
  nofun

theorem readText_of_readFile {text : String} (h : disk.readFile path = .ok text.toUTF8) :
    disk.readText path = .ok text := by
  simp only [readText, h, Text.fromUTF8?_toUTF8]

end Disk

namespace Document

/-- What saving a document does to the disk, and what it leaves. Directories stay. If it
succeeds, the file reads as the document's text and every other place is as it was, or is a
directory now that was missing on the way to the file. If it fails, nothing is changed but for
directories that were missing on the way to the one around the file. A file that is there can
always be replaced. -/
theorem save_replaces (doc : Document) (path : Path) (crew : Crew ε π) (world : World ε π) :
    ∃ result disk, doc.save path crew world = (result, {world with disk := disk}) ∧
      world.disk.Keeps disk ∧
      (result = .ok () → disk.readText path = .ok doc.write ∧
        ∀ location, location ≠ world.disk.placeOf path → world.disk.PavedAt path disk location) ∧
      (∀ e, result = .error e → disk = world.disk ∨
        ∃ parent, path.parent? = some parent ∧ world.disk.Paves parent disk) ∧
      (world.disk.HasFile path → result = .ok ()) := by
  have hfile := fun h : world.disk.HasFile path => Disk.writeText_of_hasFile h doc.write
  cases hwrite : world.disk.writeText path doc.write with
  | mk result disk =>
    have hsave : doc.save path crew world = (result, {world with disk := disk}) := by
      simp only [save, Task.onDisk, hwrite]
    rw [hwrite] at hfile
    refine ⟨result, disk, hsave, ?_⟩
    cases result with
    | error e =>
      have hleft := Disk.eq_of_writeText_error hwrite
      refine ⟨(Disk.writeText_error hwrite).keeps, nofun, fun _ _ => ?_, hfile⟩
      rw [hleft]
      exact world.disk.ensureParent_cases path
    | ok done =>
      have hwrites := Disk.writeText_writes hwrite
      exact ⟨hwrites.keeps, fun _ => ⟨Disk.readText_of_readFile hwrites.read, hwrites.others⟩,
        nofun, hfile⟩

end Document

end BuildConductor
