import BuildConductor.Proofs.Disk.Route

/-! What writing a file changes.

Making directories adds those that are missing on the way of a path and changes nothing else
(`Paves`). Writing a file adds those that are missing on the way to it, and puts the file at
its place (`Writes`). Where it fails, it has added directories at most. -/
namespace BuildConductor.Disk

variable {disk middle after : Disk} {path : Path}

/-! ### Directories that are added -/

/-- Whether a place is as it was, or has become a directory where nothing was, on the way of a
path. -/
def PavedAt (disk : Disk) (path : Path) (after : Disk) (location : Location) : Prop :=
  after.content? location = disk.content? location ∨
    disk.content? location = none ∧ after.content? location = some .directory ∧
      disk.OnTheWay path location

/-- A place that has changed twice has changed on the way of one of two paths. -/
theorem PavedAt.or {next : Path} (hcurrent : middle.current = disk.current)
    (h : disk.PavedAt path middle location) (hmore : middle.PavedAt next after location) :
    disk.PavedAt path after location ∨ disk.PavedAt next after location := by
  have horigin : middle.origin next = disk.origin next := origin_of_current hcurrent next
  rcases hmore with hsame | ⟨hfree, hmade, names, hnames, heq⟩
  · exact .inl (by rwa [PavedAt, hsame])
  · rcases h with hsame | ⟨-, hthere, -⟩
    · exact .inr (.inr ⟨hsame ▸ hfree, hmade, names, hnames, horigin ▸ heq⟩)
    · rw [hthere] at hfree
      cases hfree

theorem PavedAt.trans (hcurrent : middle.current = disk.current)
    (h : disk.PavedAt path middle location) (hmore : middle.PavedAt path after location) :
    disk.PavedAt path after location :=
  (h.or hcurrent hmore).elim id id

/-- Whether a disk differs from another in directories only that were missing on the way of a
path. -/
structure Paves (disk : Disk) (path : Path) (after : Disk) : Prop where
  current : after.current = disk.current
  places : ∀ location, disk.PavedAt path after location

namespace Paves

theorem refl (disk : Disk) (path : Path) : disk.Paves path disk :=
  ⟨rfl, fun _ => .inl rfl⟩

theorem trans (h : disk.Paves path middle) (hmore : middle.Paves path after) :
    disk.Paves path after :=
  ⟨hmore.current.trans h.current, fun location =>
    (h.places location).trans h.current (hmore.places location)⟩

/-- What is on the way of a path is on the way of those it leads onto. -/
theorem onto {next : Path} (h : disk.Paves path after) (hleads : Leads path next) :
    disk.Paves next after := by
  have horigin : disk.origin path = disk.origin next := by simp only [origin, hleads.isAbsolute]
  refine ⟨h.current, fun location => (h.places location).imp_right ?_⟩
  rintro ⟨hfree, hmade, names, hnames, heq⟩
  exact ⟨hfree, hmade, names, hnames.trans hleads.steps, horigin ▸ heq⟩

/-- What was there is as it was. -/
theorem stays (h : disk.Paves path after) (hthere : disk.content? location ≠ none) :
    after.content? location = disk.content? location :=
  (h.places location).resolve_right fun hmade => hthere hmade.1

/-- Directories that were there stay. -/
theorem keeps (h : disk.Paves path after) : disk.Keeps after :=
  keeps_of_content? h.current fun location hdirectory => by
    rw [h.stays (by rw [hdirectory]; nofun), hdirectory]

theorem keepsFiles (h : disk.Paves path after) : disk.KeepsFiles after :=
  fun _ hdirectory hthere => (h.stays hthere).symm.trans hdirectory

end Paves

theorem makeDirectory_paves (disk : Disk) (path : Path) :
    disk.Paves path (disk.makeDirectory path).2 := by
  unfold makeDirectory
  split
  · exact .refl disk path
  · exact .refl disk path
  · exact .refl disk path
  rename_i location hfree
  obtain ⟨directory, last, rfl, hfinds, hlookup⟩ := exists_free hfree
  have hnone : disk.content? (directory ++ [last]) = none := content?_eq_none.2 hlookup
  have hput := content?_put (.directory [])
    (content?_eq_directory.2 (directory_of_approach hfinds.approach))
    (by rw [hnone]; exact nofun) fun _ _ => rfl
  refine ⟨rfl, fun location => ?_⟩
  by_cases hplace : location = directory ++ [last]
  · refine .inr ⟨hplace ▸ hnone, (hput location).trans (if_pos hplace), ?_⟩
    rw [hplace, ← hfinds.placeOf_eq]
    exact disk.onTheWay_placeOf path
  · exact .inl ((hput location).trans (if_neg hplace))

theorem makeFirst_paves (disk : Disk) {paths : List Path} {onto : Path}
    (h : ∀ path ∈ paths, Leads path onto) : disk.Paves onto (disk.makeFirst paths).2 := by
  induction paths generalizing disk with
  | nil => exact .refl disk onto
  | cons path above ih =>
    obtain ⟨hpath, habove⟩ := List.forall_mem_cons.1 h
    have hmade (disk : Disk) := (disk.makeDirectory_paves path).onto hpath
    have hfirst := hmade disk
    have hothers := ih disk habove
    unfold makeFirst
    split
    · exact .refl disk onto
    split
    · rename_i heq
      rwa [heq] at hfirst
    · split
      · rename_i heq
        rwa [heq] at hothers
      · rename_i middle heq
        rw [heq] at hothers
        have hagain := hothers.trans (hmade middle)
        split
        · rename_i heq
          rwa [heq] at hagain
        · rename_i heq
          rw [heq] at hagain
          split <;> exact hagain
    · rename_i heq
      rw [heq] at hfirst
      split <;> exact hfirst

theorem makeDirectories_paves (disk : Disk) (path : Path) :
    disk.Paves path (disk.makeDirectories path).2 := by
  refine disk.makeFirst_paves fun ancestor hancestor => ?_
  obtain ⟨cs, hcs, rfl⟩ := List.mem_map.1 hancestor
  exact leads_of_mem_ancestors hcs

theorem ensureDirectory_paves (disk : Disk) (path : Path) :
    disk.Paves path (disk.ensureDirectory path).2 := by
  have hmade := disk.makeDirectories_paves path
  unfold ensureDirectory
  split
  · exact .refl disk path
  · split
    · rename_i heq
      rwa [heq] at hmade
    · rename_i heq
      rwa [heq] at hmade

/-- Only the way to the directory around a file is paved, if there is one. -/
theorem ensureParent_cases (disk : Disk) (path : Path) :
    (disk.ensureParent path).2 = disk ∨
      ∃ parent, path.parent? = some parent ∧ disk.Paves parent (disk.ensureParent path).2 := by
  unfold ensureParent
  split
  · exact .inl rfl
  rename_i parent hparent
  split
  · exact .inl rfl
  · exact .inr ⟨parent, hparent, disk.ensureDirectory_paves parent⟩

theorem ensureParent_paves (disk : Disk) (path : Path) :
    disk.Paves path (disk.ensureParent path).2 := by
  rcases disk.ensureParent_cases path with hsame | ⟨parent, hparent, hpaves⟩
  · rw [hsame]
    exact .refl disk path
  · exact hpaves.onto (leads_of_parent? hparent)

/-! ### Files that are written -/

/-- A file is put where there was no directory, in a directory. -/
theorem writeFile_ok {bytes : ByteArray} (h : disk.writeFile path bytes = (.ok (), after)) :
    ∃ directory last, disk.Finds path directory last ∧ endsInSlash path = false ∧
      disk.content? (directory ++ [last]) ≠ some .directory ∧
      after = disk.put (directory ++ [last]) (.file bytes) := by
  unfold writeFile at h
  split at h
  · cases h
  split at h
  · cases h
  rename_i hslash
  have hslash := eq_false_of_ne_true hslash
  split at h
  · cases h
  · cases h
  · cases h
  · rename_i hresolve
    cases h
    obtain ⟨directory, last, rfl, hfinds, hlookup⟩ := exists_finds hresolve
    refine ⟨directory, last, hfinds, hslash, ?_, rfl⟩
    rw [content?_eq_file.2 hlookup]
    exact nofun
  · rename_i hresolve
    cases h
    obtain ⟨directory, last, rfl, hfinds, hlookup⟩ := exists_free hresolve
    refine ⟨directory, last, hfinds, hslash, ?_, rfl⟩
    rw [content?_eq_none.2 hlookup]
    exact nofun

theorem writeFile_error {bytes : ByteArray} {e : SystemError}
    (h : disk.writeFile path bytes = (.error e, after)) : after = disk := by
  unfold writeFile at h
  split at h
  · cases h
    rfl
  split at h
  · cases h
    rfl
  split at h <;> cases h <;> rfl

/-- What writing a file changes: the file is at its place, where there was no directory, and is
read under its path; and directories are added that were missing on the way. -/
structure Writes (disk : Disk) (path : Path) (bytes : ByteArray) (after : Disk) : Prop where
  current : after.current = disk.current
  before : disk.content? (disk.placeOf path) ≠ some .directory
  written : after.content? (disk.placeOf path) = some (.file bytes)
  others : ∀ location, location ≠ disk.placeOf path → disk.PavedAt path after location
  read : after.readFile path = .ok bytes

theorem writeFile_writes {bytes : ByteArray} (h : disk.writeFile path bytes = (.ok (), after)) :
    disk.Writes path bytes after := by
  obtain ⟨directory, last, hfinds, hslash, hbefore, rfl⟩ := writeFile_ok h
  have hput := content?_put (.file bytes)
    (content?_eq_directory.2 (directory_of_approach hfinds.approach)) hbefore fun _ _ => rfl
  rw [← hfinds.placeOf_eq] at hbefore
  refine ⟨rfl, hbefore, ?_, fun location hne => .inl ?_, ?_⟩
  · rw [hput, hfinds.placeOf_eq, if_pos rfl]
    rfl
  · rw [hput, ← hfinds.placeOf_eq, if_neg hne]
  · have hkeeps : disk.Keeps (disk.put (directory ++ [last]) (.file bytes)) := by
      refine keeps_of_content? rfl fun location hlocation => ?_
      rw [hput, ← hfinds.placeOf_eq, if_neg, hlocation]
      rintro rfl
      exact hbefore hlocation
    have hthere : (disk.put (directory ++ [last]) (.file bytes)).lookup? (directory ++ [last]) =
        some (.file bytes) := by
      refine content?_eq_file.1 ?_
      rw [hput, if_pos rfl]
      rfl
    have hfound : (disk.put (directory ++ [last]) (.file bytes)).Finds path directory last :=
      ⟨approach_of_keeps hkeeps hfinds.approach, hfinds.notDots, hfinds.short⟩
    simp [readFile, stat, hfound.resolve hthere, targetAt, hslash]

namespace Writes
variable {bytes : ByteArray}

/-- What was there is as it was, unless it was at the place of the file. -/
theorem stays (h : disk.Writes path bytes after) (hne : location ≠ disk.placeOf path)
    (hthere : disk.content? location ≠ none) : after.content? location = disk.content? location :=
  (h.others location hne).resolve_right fun hmade => hthere hmade.1

/-- Directories that were there stay. -/
theorem keeps (h : disk.Writes path bytes after) : disk.Keeps after := by
  refine keeps_of_content? h.current fun location hdirectory => ?_
  have hne : location ≠ disk.placeOf path := by
    rintro rfl
    exact h.before hdirectory
  rw [h.stays hne (by rw [hdirectory]; nofun), hdirectory]

theorem keepsFiles (h : disk.Writes path bytes after) : disk.KeepsFiles after := by
  intro location hdirectory hthere
  by_cases hplace : location = disk.placeOf path
  · rw [hplace, h.written] at hdirectory
    cases hdirectory
  · exact (h.stays hplace hthere).symm.trans hdirectory

/-- The file is found. -/
theorem contains (h : disk.Writes path bytes after) : after.contains path = true := by
  obtain ⟨hresolves, hcontent, hslash⟩ := readFile_eq_ok_iff.1 h.read
  exact contains_iff.2 ⟨hresolves, _, hcontent, by rw [hslash]; nofun⟩

/-- A settled path that nothing was found under led to a place where nothing was. -/
theorem missing (h : disk.Writes path bytes after) (hsettled : disk.Settled path)
    (hfree : disk.contains path = false) : disk.content? (disk.placeOf path) = none := by
  obtain ⟨hresolves, -, hslash⟩ := readFile_eq_ok_iff.1 h.read
  cases hcontent : disk.content? (disk.placeOf path) with
  | none => rfl
  | some content =>
    have hbefore := hsettled.resolves h.current h.keepsFiles hresolves
      (by rw [hcontent]; nofun)
    have hcontains := contains_iff.2 ⟨hbefore, content, hcontent, by rw [hslash]; nofun⟩
    cases hfree.symm.trans hcontains

/-- Nothing else is found under another path than before, if its place is not above that of
the file. -/
theorem contains_eq {other : Path} (h : disk.Writes path bytes after)
    (hsettled : disk.Settled path) (hother : disk.Settled other)
    (hbeside : ¬disk.placeOf other <+: disk.placeOf path) :
    after.contains other = disk.contains other := by
  have hne : disk.placeOf other ≠ disk.placeOf path := fun heq =>
    hbeside (heq ▸ List.prefix_rfl)
  rw [Bool.eq_iff_iff]
  constructor
  · intro hcontains
    obtain ⟨hresolves, content, hcontent, hslash⟩ := contains_iff.1 hcontains
    rw [placeOf_of_current h.current] at hcontent
    have hsame : after.content? (disk.placeOf other) = disk.content? (disk.placeOf other) :=
      (h.others _ hne).resolve_right fun hmade =>
        hbeside (hsettled.prefix_of_missing hmade.2.2 hmade.1)
    rw [hsame] at hcontent
    have hbefore := hother.resolves h.current h.keepsFiles hresolves (by rw [hcontent]; nofun)
    exact contains_iff.2 ⟨hbefore, content, hcontent, hslash⟩
  · intro hcontains
    obtain ⟨-, content, hcontent, -⟩ := contains_iff.1 hcontains
    exact contains_of_keeps h.keeps hcontains (h.stays hne (by rw [hcontent]; nofun))

end Writes

/-- Directories that are added before a file is written are on the way to it. -/
theorem Paves.writes {bytes : ByteArray} (h : disk.Paves path middle)
    (hmore : middle.Writes path bytes after) : disk.Writes path bytes after := by
  have hplace : middle.placeOf path = disk.placeOf path := by
    simp only [placeOf, origin, h.current]
  obtain ⟨hcurrent, hbefore, hwritten, hothers, hread⟩ := hmore
  rw [hplace] at hbefore hwritten hothers
  refine ⟨hcurrent.trans h.current, fun hdirectory => hbefore ?_, hwritten,
    fun location hne => (h.places location).trans h.current (hothers location hne), hread⟩
  rcases h.places (disk.placeOf path) with hsame | ⟨-, hmade, -⟩
  · rw [hsame, hdirectory]
  · exact hmade

theorem writeText_writes {text : String} (h : disk.writeText path text = (.ok (), after)) :
    disk.Writes path text.toUTF8 after := by
  have hpaves := disk.ensureParent_paves path
  unfold writeText at h
  split at h
  · cases h
  rename_i middle hparent
  rw [hparent] at hpaves
  split at h
  · rename_i hwrite
    cases h
    exact hpaves.writes (writeFile_writes hwrite)
  · cases h

/-- Where a file cannot be written, nothing was done but to make the directory around it. -/
theorem eq_of_writeText_error {text : String} {e : FileError}
    (h : disk.writeText path text = (.error e, after)) : after = (disk.ensureParent path).2 := by
  unfold writeText at h
  split at h
  · rename_i hparent
    cases h
    rw [hparent]
  rename_i middle hparent
  rw [hparent]
  split at h
  · cases h
  · rename_i hwrite
    cases h
    exact writeFile_error hwrite

/-- So a file that cannot be written is left as it was. -/
theorem writeText_error {text : String} {e : FileError}
    (h : disk.writeText path text = (.error e, after)) : disk.Paves path after :=
  eq_of_writeText_error h ▸ disk.ensureParent_paves path

/-! ### Files that can be written -/

/-- A path of names that lead to a directory is a directory's. -/
theorem isDirectory_of_walk {start location : Location}
    (htaken : path.bytes.contains 0 = false ∧ path.bytes.isEmpty = false ∧
      ¬longestPath < path.bytes.length)
    (hstart : disk.start path = .ok start) (hwalk : disk.walk start (steps path) = .ok location) :
    disk.isDirectory path = true := by
  have hplace : disk.placeOf path = location := by
    rw [placeOf, origin_of_start hstart, walk_eq_foldl hwalk]
  have hshort := short_of_walk hwalk
  obtain ⟨middle, hmiddle⟩ : ∃ middle, disk.walk start (steps path).dropLast = .ok middle := by
    obtain ⟨back, hback⟩ := List.dropLast_prefix (steps path)
    rw [← hback] at hwalk
    obtain ⟨middle, hmiddle, -⟩ := walk_append_eq_ok.1 hwalk
    exact ⟨middle, hmiddle⟩
  refine isDirectory_iff.2 ⟨resolves_iff.2 ⟨middle, _, approach_eq_ok.2
    ⟨htaken, ⟨start, hstart, hmiddle⟩, rfl⟩, fun name hname => ?_⟩, ?_⟩
  · exact hshort name (List.mem_of_getLast? hname)
  · rw [hplace]
    rw [walk_eq_foldl hwalk]
    exact directories_of_walk (directory_of_start hstart) hwalk _ List.prefix_rfl

/-- The names of a directory's path are some of those before the last name of a file in it. -/
theorem steps_parent_prefix {parent : Path} (h : path.parent? = some parent)
    (hslash : endsInSlash path = false) : steps parent <+: (steps path).dropLast := by
  obtain ⟨cs, hcs, rfl⟩ := Option.map_eq_some_iff.1 h
  simp only [steps_eq_namesOf, Path.bytes_ofSystem, endsInSlash] at hslash ⊢
  rcases Path.parentList?_eq_some hcs with ⟨rfl, -⟩ | ⟨rfl, -⟩ | ⟨-, rest, hrest⟩
  · exact List.nil_prefix
  · exact List.nil_prefix
  · rw [hrest] at hslash ⊢
    obtain ⟨front, c, rfl⟩ : ∃ front c, rest = front ++ [c] := by
      rcases List.eq_nil_or_concat rest with rfl | ⟨front, c, rfl⟩
      · simp at hslash
      · exact ⟨front, c, List.concat_eq_append⟩
    have hc : Path.slash ∉ [c] := by
      rw [← List.cons_append, ← List.append_assoc, List.getLast?_concat] at hslash
      intro hmem
      rw [← List.mem_singleton.1 hmem] at hslash
      cases hslash
    obtain ⟨piece, hpiece⟩ := Path.getLast?_namesOf_append hc (List.cons_ne_nil c []) front
    obtain ⟨others, hothers⟩ := List.getLast?_eq_some_iff.1 hpiece
    rw [Path.namesOf_append, hothers, List.map_append, List.map_append, ← List.append_assoc]
    rw [List.map_singleton, List.dropLast_concat]
    exact List.prefix_append _ _

/-- The directory around what is found under its last name is there. -/
theorem Finds.ensureParent {directory : Location} {last : SystemText}
    (h : disk.Finds path directory last) (hslash : endsInSlash path = false) :
    disk.ensureParent path = (.ok (), disk) := by
  unfold Disk.ensureParent
  split
  · rfl
  rename_i parent hparent
  split
  · rfl
  rename_i hempty
  obtain ⟨⟨hnul, -, hlong⟩, ⟨start, hstart, hwalk⟩, -⟩ := approach_eq_ok.1 h.approach
  have hleads := leads_of_parent? hparent
  have hbegin : disk.start parent = .ok start := by
    rw [start_eq_ok, hleads.isAbsolute]
    exact start_eq_ok.1 hstart
  obtain ⟨back, hback⟩ := steps_parent_prefix hparent hslash
  rw [← hback] at hwalk
  obtain ⟨middle, hmiddle, -⟩ := walk_append_eq_ok.1 hwalk
  have htaken : parent.bytes.contains 0 = false ∧ parent.bytes.isEmpty = false ∧
      ¬longestPath < parent.bytes.length := by
    have hbegins := Path.parent?_prefix hparent
    have hshorter := hbegins.length_le
    refine ⟨?_, eq_false_of_ne_true hempty, by omega⟩
    rw [List.contains_eq_mem, decide_eq_false_iff_not] at hnul ⊢
    exact fun hmem => hnul (hbegins.subset hmem)
  exact ensureDirectory_of_isDirectory (isDirectory_of_walk htaken hbegin hmiddle)

/-- What is no directory and is found under its last name can be written. -/
theorem writeText_of_finds {directory : Location} {last : SystemText}
    (h : disk.Finds path directory last) (hslash : endsInSlash path = false)
    (hplace : disk.content? (directory ++ [last]) ≠ some .directory) (text : String) :
    (disk.writeText path text).1 = .ok () := by
  have hwrite : (disk.writeFile path text.toUTF8).1 = .ok () := by
    unfold writeFile
    rw [h.approach, h.resolve rfl]
    cases hlookup : disk.lookup? (directory ++ [last]) with
    | none => simp [hslash, targetAt]
    | some node =>
      cases node with
      | file bytes => simp [hslash, targetAt]
      | directory entries => exact absurd (content?_eq_directory.2 ⟨entries, hlookup⟩) hplace
  unfold writeText
  rw [h.ensureParent hslash]
  simp only
  generalize disk.writeFile path text.toUTF8 = outcome at hwrite ⊢
  obtain ⟨result, after⟩ := outcome
  cases hwrite
  rfl

end BuildConductor.Disk
