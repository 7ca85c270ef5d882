import BuildConductor.PresetFiles
import BuildConductor.Proofs.ConfigFile.Saving
import BuildConductor.Proofs.Pipeline
import BuildConductor.Proofs.Preset

/-! Writing the ready-made documents into a directory.

A file is kept if something is found under its path, and is written otherwise. `Makes` says what
a row of presets comes to, one rule for each thing that can become of its first file, and
`exists_makes` that every run follows it. What a run creates, what it spares and what a second
run does are then read off `Makes` by induction.

What is found under a path is not always what is at its place. Where the path of the directory
takes two dots behind a name that is missing, that name becomes a directory when the first file
is written, and then the path leads to files that were there all along and were not seen. So
only for a settled directory is nothing overwritten. -/
namespace BuildConductor

variable {ε π : Type}

/-! ### The paths of the files -/

namespace Preset

/-- The path of a preset's file in a directory. -/
def fileIn (dir : Path) (preset : Preset) : Path :=
  dir.join ⟨preset.fileName⟩

theorem fileName_injective {preset other : Preset}
    (h : (preset.fileName : SystemText) = other.fileName) : preset = other := by
  cases preset <;> cases other <;> first | rfl | exact absurd h (by decide +kernel)

theorem isAbsolute_fileName (preset : Preset) :
    (⟨preset.fileName⟩ : Path).isAbsolute = false := by
  cases preset <;> decide +kernel

theorem steps_fileName (preset : Preset) :
    Disk.steps ⟨preset.fileName⟩ = [preset.fileName] := by
  cases preset <;> decide +kernel

theorem fileName_ne_dots (preset : Preset) :
    (preset.fileName : SystemText) ≠ "." ∧ (preset.fileName : SystemText) ≠ ".." := by
  cases preset <;> decide +kernel

theorem placeOf_fileIn (disk : Disk) (dir : Path) (preset : Preset) :
    disk.placeOf (preset.fileIn dir) = disk.placeOf dir ++ [(preset.fileName : SystemText)] := by
  rw [fileIn, Disk.placeOf_join preset.isAbsolute_fileName, steps_fileName]
  show Disk.onward _ _ = _
  rw [Disk.onward, if_neg preset.fileName_ne_dots.1, if_neg preset.fileName_ne_dots.2]

theorem eq_of_placeOf_prefix {disk : Disk} {dir : Path} {preset other : Preset}
    (h : disk.placeOf (preset.fileIn dir) <+: disk.placeOf (other.fileIn dir)) :
    preset = other := by
  rw [placeOf_fileIn, placeOf_fileIn, List.prefix_append_right_inj] at h
  exact fileName_injective (List.cons_prefix_cons.1 h).1

theorem eq_of_placeOf_eq {disk : Disk} {dir : Path} {preset other : Preset}
    (h : disk.placeOf (preset.fileIn dir) = disk.placeOf (other.fileIn dir)) : preset = other :=
  eq_of_placeOf_prefix ⟨[], (List.append_nil _).trans h⟩

theorem fileIn_injective (dir : Path) : (fileIn dir).Injective := fun _ _ h =>
  eq_of_placeOf_eq (congrArg (⟨[], []⟩ : Disk).placeOf h)

theorem settled_fileIn {disk : Disk} {dir : Path} (h : disk.Settled dir) (preset : Preset) :
    disk.Settled (preset.fileIn dir) := by
  refine h.join preset.isAbsolute_fileName ?_
  rw [steps_fileName]
  exact fun hmem => preset.fileName_ne_dots.2 (List.mem_singleton.1 hmem).symm

/-- What is saved of a preset is read back. -/
theorem parse_write (preset : Preset) (path : Path) :
    Document.parse preset.document.write path = .ok preset.document := by
  obtain ⟨flag, hoptions⟩ : ∃ flag, preset.document.options = baselineOptions flag flag := by
    cases preset with
    | standard => exact ⟨true, rfl⟩
    | minimal => exact ⟨false, rfl⟩
    | full => exact ⟨true, rfl⟩
  refine Document.parse_write_of_baseline ?_ hoptions ?_ path <;> cases preset <;> rfl

end Preset

namespace PresetFiles
variable {dir : Path} {presets created skipped : List Preset} {before after : Disk}
  {failure : Option FileError}

/-! ### What a row of presets comes to -/

/-- What creating one file comes to. -/
inductive Creates (path : Path) (preset : Preset) (before : Disk) :
    Except FileError Bool → Disk → Prop
  | kept (hthere : before.contains path = true) : Creates path preset before (.ok false) before
  | written {after : Disk} (hfree : before.contains path = false)
    (hwrites : before.Writes path preset.document.write.toUTF8 after) :
    Creates path preset before (.ok true) after
  | failed {after : Disk} (e : FileError) (hfree : before.contains path = false)
    (hpaves : before.Paves path after) : Creates path preset before (.error e) after

/-- How the files of a row of presets are made in a directory, on one disk after another: the
ones that are created, the ones that are skipped, and why the row ended early if it did. -/
inductive Makes (dir : Path) :
    List Preset → Disk → List Preset → List Preset → Option FileError → Disk → Prop
  | done (disk : Disk) : Makes dir [] disk [] [] none disk
  | kept {preset : Preset} {rest created skipped : List Preset} {before after : Disk}
    {failure : Option FileError} (hthere : before.contains (preset.fileIn dir) = true)
    (hrest : Makes dir rest before created skipped failure after) :
    Makes dir (preset :: rest) before created (preset :: skipped) failure after
  | written {preset : Preset} {rest created skipped : List Preset} {before middle after : Disk}
    {failure : Option FileError} (hfree : before.contains (preset.fileIn dir) = false)
    (hwrites : before.Writes (preset.fileIn dir) preset.document.write.toUTF8 middle)
    (hrest : Makes dir rest middle created skipped failure after) :
    Makes dir (preset :: rest) before (preset :: created) skipped failure after
  | failed {preset : Preset} {before after : Disk} (e : FileError)
    (hfree : before.contains (preset.fileIn dir) = false)
    (hpaves : before.Paves (preset.fileIn dir) after) (rest : List Preset) :
    Makes dir (preset :: rest) before [] [] (some e) after

/-- What is listed after a file, behind what was listed before it. -/
def noted (files : PresetFiles) (path : Path) (isNew : Bool) : PresetFiles :=
  if isNew then {files with created := files.created ++ [path]}
  else {files with skipped := files.skipped ++ [path]}

/-- What is listed after a row. -/
def listed (dir : Path) (files : PresetFiles) (created skipped : List Preset) : PresetFiles :=
  ⟨files.created ++ created.map (Preset.fileIn dir),
    files.skipped ++ skipped.map (Preset.fileIn dir)⟩

theorem listed_created (dir : Path) (files : PresetFiles) (preset : Preset)
    (created skipped : List Preset) :
    listed dir files (preset :: created) skipped =
      listed dir (files.noted (preset.fileIn dir) true) created skipped := by
  simp [listed, noted]

theorem listed_skipped (dir : Path) (files : PresetFiles) (preset : Preset)
    (created skipped : List Preset) :
    listed dir files created (preset :: skipped) =
      listed dir (files.noted (preset.fileIn dir) false) created skipped := by
  simp [listed, noted]

/-- How a row ends. -/
def ended (files : PresetFiles) : Option FileError → Except FileError PresetFiles
  | none => .ok files
  | some e => .error e

theorem createEach_cons (dir : Path) (preset : Preset) (rest : List Preset) (files : PresetFiles) :
    (createEach dir (preset :: rest) files : Task ε π FileError PresetFiles) =
      (create (preset.fileIn dir) preset >>= fun isNew =>
        createEach dir rest (files.noted (preset.fileIn dir) isNew)) :=
  rfl

theorem exists_creates (path : Path) (preset : Preset) (crew : Crew ε π) (world : World ε π) :
    ∃ result after, Creates path preset world.disk result after ∧
      (create path preset).Leaves crew world result after := by
  have hfound := (Task.ends_inspect (E := FileError) (fun disk => disk.contains path) crew
    world).leaves
  cases hcontains : world.disk.contains path with
  | true =>
    rw [hcontains] at hfound
    refine ⟨_, _, .kept hcontains, hfound.bind fun left hleft => ?_⟩
    rw [← hleft.disk]
    exact ((Task.ends_trace _ crew left).andThen fun traced _ =>
      Task.ends_pure false crew traced).leaves
  | false =>
    rw [hcontains] at hfound
    cases hwrite : world.disk.writeText path preset.document.write with
    | mk result after =>
      have hsave (left : World ε π) (hleft : Rearrangement world world.disk left) :
          (preset.document.save path).Leaves crew left result after := by
        have hleaves := Task.leaves_onDisk
          (fun disk => disk.writeText path preset.document.write) crew left
        rwa [hleft.disk, hwrite] at hleaves
      cases result with
      | error e =>
        refine ⟨_, _, .failed e hcontains (Disk.writeText_error hwrite),
          hfound.bind fun left hleft => ?_⟩
        exact (hsave left hleft).bind_error _
      | ok done =>
        refine ⟨_, _, .written hcontains (Disk.writeText_writes hwrite),
          hfound.bind fun left hleft => (hsave left hleft).bind fun saved hsaved => ?_⟩
        rw [← hsaved.disk]
        exact (Task.ends_pure true crew saved).leaves

/-- Every run makes the files of its presets, whatever was listed before. -/
theorem exists_makes (dir : Path) (presets : List Preset) (crew : Crew ε π) (world : World ε π) :
    ∃ created skipped failure after, Makes dir presets world.disk created skipped failure after ∧
      ∀ files, (createEach dir presets files).Leaves crew world
        (ended (listed dir files created skipped) failure) after := by
  induction presets generalizing world with
  | nil =>
    refine ⟨[], [], none, world.disk, .done world.disk, fun files => ?_⟩
    have hlisted : listed dir files [] [] = files := by simp [listed]
    rw [hlisted]
    exact (Task.ends_pure files crew world).leaves
  | cons preset rest ih =>
    obtain ⟨result, middle, hfile, left, hleft, hmiddle⟩ :=
      exists_creates (preset.fileIn dir) preset crew world
    cases hfile with
    | failed e hfree hpaves =>
      refine ⟨[], [], some e, middle, .failed e hfree hpaves rest, fun files => ?_⟩
      rw [createEach_cons]
      exact Task.Leaves.bind_error ⟨left, hleft, hmiddle⟩ _
    | kept hthere =>
      obtain ⟨created, skipped, failure, after, hrest, hrun⟩ := ih left
      rw [hmiddle.disk] at hrest
      refine ⟨created, preset :: skipped, failure, after, .kept hthere hrest, fun files => ?_⟩
      rw [createEach_cons, listed_skipped]
      exact Task.leaves_bind hleft hmiddle (hrun _)
    | written hfree hwrites =>
      obtain ⟨created, skipped, failure, after, hrest, hrun⟩ := ih left
      rw [hmiddle.disk] at hrest
      refine ⟨preset :: created, skipped, failure, after, .written hfree hwrites hrest,
        fun files => ?_⟩
      rw [createEach_cons, listed_created]
      exact Task.leaves_bind hleft hmiddle (hrun _)

namespace Makes
variable {location : Location}

/-- Directories stay. -/
theorem keeps (h : Makes dir presets before created skipped failure after) :
    before.Keeps after := by
  induction h with
  | done disk => exact .refl disk
  | kept _ _ ih => exact ih
  | written _ hwrites _ ih => exact hwrites.keeps.trans ih
  | failed _ _ hpaves _ => exact hpaves.keeps

/-- So does what is not at the place of a file. -/
theorem stays (h : Makes dir presets before created skipped failure after)
    (hapart : ∀ preset ∈ created, location ≠ before.placeOf (preset.fileIn dir))
    (hthere : before.content? location ≠ none) :
    after.content? location = before.content? location := by
  induction h with
  | done => rfl
  | kept _ _ ih => exact ih hapart hthere
  | written _ hwrites _ ih =>
    obtain ⟨hne, hrest⟩ := List.forall_mem_cons.1 hapart
    have hfirst := hwrites.stays hne hthere
    rw [← hfirst]
    refine ih (fun preset hpreset => ?_) (hfirst ▸ hthere)
    rw [Disk.placeOf_of_current hwrites.current]
    exact hrest preset hpreset
  | failed _ _ hpaves _ => exact hpaves.stays hthere

/-- What is created and what is skipped comes in the order of the presets. -/
theorem sublists (h : Makes dir presets before created skipped failure after) :
    created.Sublist presets ∧ skipped.Sublist presets := by
  induction h with
  | done => exact ⟨.slnil, .slnil⟩
  | kept _ _ ih => exact ⟨ih.1.cons _, ih.2.cons_cons _⟩
  | written _ _ _ ih => exact ⟨ih.1.cons_cons _, ih.2.cons _⟩
  | failed => exact ⟨List.nil_sublist _, List.nil_sublist _⟩

/-- A row that does not end early takes every preset. -/
theorem perm (h : Makes dir presets before created skipped failure after)
    (hended : failure = none) : (created ++ skipped).Perm presets := by
  induction h with
  | done => exact .nil
  | kept _ _ ih => exact List.perm_middle.trans ((ih hended).cons _)
  | written _ _ _ ih => exact (ih hended).cons _
  | failed => cases hended

/-- What is at the place of a file stays there while the files of other presets are made. -/
theorem stays_beside {preset : Preset}
    (h : Makes dir presets before created skipped failure after) (hother : preset ∉ presets)
    (hthere : before.content? (before.placeOf (preset.fileIn dir)) ≠ none) :
    after.content? (before.placeOf (preset.fileIn dir)) =
      before.content? (before.placeOf (preset.fileIn dir)) := by
  refine h.stays (fun made hmade heq => hother ?_) hthere
  rw [Preset.eq_of_placeOf_eq heq]
  exact h.sublists.1.subset hmade

/-- Every file that is created holds its document in the end. -/
theorem reads (h : Makes dir presets before created skipped failure after)
    (hnodup : presets.Nodup) :
    ∀ preset ∈ created,
      after.readFile (preset.fileIn dir) = .ok preset.document.write.toUTF8 := by
  induction h with
  | done => exact List.forall_mem_nil _
  | kept _ _ ih => exact ih (List.nodup_cons.1 hnodup).2
  | written _ hwrites hmakes ih =>
    obtain ⟨hnew, hrest⟩ := List.nodup_cons.1 hnodup
    refine List.forall_mem_cons.2 ⟨?_, ih hrest⟩
    refine Disk.readFile_of_keeps hmakes.keeps hwrites.read (hmakes.stays_beside hnew ?_)
    rw [Disk.placeOf_of_current hwrites.current, hwrites.written]
    nofun
  | failed => exact List.forall_mem_nil _

/-- After a row that does not end early every file is found. -/
theorem contains (h : Makes dir presets before created skipped failure after)
    (hnodup : presets.Nodup) (hended : failure = none) :
    ∀ preset ∈ presets, after.contains (preset.fileIn dir) = true := by
  have hstays {preset : Preset} {rest created skipped : List Preset} {middle after : Disk}
      {failure : Option FileError} (hmakes : Makes dir rest middle created skipped failure after)
      (hnew : preset ∉ rest) (hthere : middle.contains (preset.fileIn dir) = true) :
      after.contains (preset.fileIn dir) = true := by
    obtain ⟨-, content, hcontent, -⟩ := Disk.contains_iff.1 hthere
    refine Disk.contains_of_keeps hmakes.keeps hthere (hmakes.stays_beside hnew ?_)
    rw [hcontent]
    nofun
  induction h with
  | done => exact List.forall_mem_nil _
  | kept hthere hmakes ih =>
    obtain ⟨hnew, hrest⟩ := List.nodup_cons.1 hnodup
    exact List.forall_mem_cons.2 ⟨hstays hmakes hnew hthere, ih hrest hended⟩
  | written _ hwrites hmakes ih =>
    obtain ⟨hnew, hrest⟩ := List.nodup_cons.1 hnodup
    exact List.forall_mem_cons.2 ⟨hstays hmakes hnew hwrites.contains, ih hrest hended⟩
  | failed => cases hended

/-- Where every file is found, all are skipped and nothing is done. -/
theorem of_contains (h : Makes dir presets before created skipped failure after)
    (hthere : ∀ preset ∈ presets, before.contains (preset.fileIn dir) = true) :
    created = [] ∧ skipped = presets ∧ failure = none ∧ after = before := by
  induction h with
  | done => exact ⟨rfl, rfl, rfl, rfl⟩
  | kept _ _ ih =>
    obtain ⟨rfl, rfl, hrest⟩ := ih (List.forall_mem_cons.1 hthere).2
    exact ⟨rfl, rfl, hrest⟩
  | written hfree => cases hfree.symm.trans (List.forall_mem_cons.1 hthere).1
  | failed _ hfree => cases hfree.symm.trans (List.forall_mem_cons.1 hthere).1

/-- After a row that does not end early, what has changed is a file that was created, or a
directory that was missing on the way to one. -/
theorem changed (h : Makes dir presets before created skipped failure after)
    (hended : failure = none) (location : Location) :
    after.content? location = before.content? location ∨
      ∃ preset ∈ created, location = before.placeOf (preset.fileIn dir) ∨
        before.PavedAt (preset.fileIn dir) after location := by
  induction h with
  | done => exact .inl rfl
  | kept _ _ ih => exact ih hended
  | @written preset _ _ _ before middle after _ _ hwrites _ ih =>
    by_cases hplace : location = before.placeOf (preset.fileIn dir)
    · exact .inr ⟨preset, List.mem_cons_self, .inl hplace⟩
    have hfirst := hwrites.others location hplace
    have hcurrent (path : Path) : middle.placeOf path = before.placeOf path :=
      Disk.placeOf_of_current hwrites.current path
    rcases ih hended with hsame | ⟨other, hother, hmade⟩
    · refine .inr ⟨preset, List.mem_cons_self, .inr ?_⟩
      rwa [Disk.PavedAt, hsame]
    rw [hcurrent] at hmade
    have hmem : other ∈ preset :: _ := List.mem_cons_of_mem _ hother
    rcases hmade with hplace | hpaved
    · exact .inr ⟨other, hmem, .inl hplace⟩
    · rcases hfirst.or hwrites.current hpaved with hpreset | hother
      · exact .inr ⟨preset, List.mem_cons_self, .inr hpreset⟩
      · exact .inr ⟨other, hmem, .inr hother⟩
  | failed => cases hended

/-! ### In a settled directory -/

/-- Nothing is changed where anything was when a file is written. -/
theorem written_stays {preset : Preset} {middle : Disk} (hsettled : before.Settled dir)
    (hfree : before.contains (preset.fileIn dir) = false)
    (hwrites : before.Writes (preset.fileIn dir) preset.document.write.toUTF8 middle)
    (hthere : before.content? location ≠ none) :
    middle.content? location = before.content? location := by
  refine hwrites.stays (fun hplace => hthere ?_) hthere
  rw [hplace]
  exact hwrites.missing (preset.settled_fileIn hsettled) hfree

theorem settled_of_written {preset : Preset} {middle : Disk} (hsettled : before.Settled dir)
    (hfree : before.contains (preset.fileIn dir) = false)
    (hwrites : before.Writes (preset.fileIn dir) preset.document.write.toUTF8 middle) :
    middle.Settled dir := by
  refine hsettled.of_stays hwrites.current fun location hthere => ?_
  rwa [written_stays hsettled hfree hwrites hthere]

/-- Nothing is overwritten, also if the row ends early. -/
theorem spares (h : Makes dir presets before created skipped failure after)
    (hsettled : before.Settled dir) (hthere : before.content? location ≠ none) :
    after.content? location = before.content? location := by
  induction h with
  | done => rfl
  | kept _ _ ih => exact ih hsettled hthere
  | written hfree hwrites _ ih =>
    have hfirst := written_stays hsettled hfree hwrites hthere
    rw [← hfirst] at hthere ⊢
    exact ih (settled_of_written hsettled hfree hwrites) hthere
  | failed _ _ hpaves _ => exact hpaves.stays hthere

/-- What is found before the row decides what is created. -/
theorem divides (h : Makes dir presets before created skipped failure after)
    (hsettled : before.Settled dir) (hnodup : presets.Nodup) (hended : failure = none) :
    created = presets.filter (fun preset => !before.contains (preset.fileIn dir)) ∧
      skipped = presets.filter fun preset => before.contains (preset.fileIn dir) := by
  induction h with
  | done => exact ⟨rfl, rfl⟩
  | kept hthere _ ih =>
    obtain ⟨hcreated, hskipped⟩ := ih hsettled (List.nodup_cons.1 hnodup).2 hended
    rw [List.filter_cons_of_neg (by simp [hthere]), List.filter_cons_of_pos (by simp [hthere])]
    exact ⟨hcreated, congrArg _ hskipped⟩
  | @written preset rest _ _ before middle _ _ hfree hwrites _ ih =>
    obtain ⟨hnew, hrest⟩ := List.nodup_cons.1 hnodup
    have hsame (other : Preset) (hother : other ∈ rest) :
        middle.contains (other.fileIn dir) = before.contains (other.fileIn dir) := by
      refine hwrites.contains_eq (preset.settled_fileIn hsettled) (other.settled_fileIn hsettled)
        fun hprefix => hnew ?_
      rwa [← Preset.eq_of_placeOf_prefix hprefix]
    obtain ⟨hcreated, hskipped⟩ := ih (settled_of_written hsettled hfree hwrites) hrest hended
    rw [List.filter_cons_of_pos (by simp [hfree]), List.filter_cons_of_neg (by simp [hfree])]
    rw [hcreated, hskipped]
    refine ⟨congrArg _ (List.filter_congr fun other hother => ?_),
      List.filter_congr hsame⟩
    rw [hsame other hother]
  | failed => cases hended

end Makes

/-! ### All ready-made documents -/

/-- The paths of all files in a directory. -/
def allIn (dir : Path) : List Path :=
  Preset.all.map (Preset.fileIn dir)

theorem nodup_all : Preset.all.Nodup := by
  decide

/-- How the creation of all files ends, and what it leaves on the disk. Where a result is listed,
nothing failed. -/
structure CreatesAll (ε π : Type) (dir : Path) (before : Disk)
    (result : Except FileError PresetFiles) (after : Disk) : Prop where
  keeps : before.Keeps after
  /-- What was there is as it was, unless it was at the place of a file. -/
  stays : ∀ location, (∀ path ∈ allIn dir, location ≠ before.placeOf path) →
    before.content? location ≠ none → after.content? location = before.content? location
  /-- In a settled directory nothing at all is overwritten. -/
  spares : before.Settled dir → ∀ location, before.content? location ≠ none →
    after.content? location = before.content? location
  /-- Every file is listed once, in order. -/
  lists : ∀ files, result = .ok files → (allIn dir).Nodup ∧
    (files.created ++ files.skipped).Perm (allIn dir) ∧
    files.created.Sublist (allIn dir) ∧ files.skipped.Sublist (allIn dir)
  /-- In a settled directory those are skipped that were found before. -/
  divides : before.Settled dir → ∀ files, result = .ok files →
    files = ⟨(allIn dir).filter fun path => !before.contains path,
      (allIn dir).filter before.contains⟩
  loads : ∀ files, result = .ok files → ∀ preset : Preset, preset.fileIn dir ∈ files.created →
    ∀ (reader : Crew ε π) (world : World ε π), world.disk = after →
      (Document.load (preset.fileIn dir) reader world).1 = .ok (preset.document, .file)
  /-- What is new is a file that was created, or a directory on the way to one. -/
  changed : ∀ files, result = .ok files → ∀ location,
    after.content? location = before.content? location ∨ ∃ path ∈ files.created,
      location = before.placeOf path ∨ before.PavedAt path after location
  /-- Creating them again creates nothing and changes nothing. -/
  again : ∀ files, result = .ok files → ∀ (crew : Crew ε π) (world : World ε π),
    world.disk = after → (createAll dir).Leaves crew world (.ok ⟨[], allIn dir⟩) after

theorem ended_eq_ok {files found : PresetFiles} (h : ended files failure = .ok found) :
    failure = none ∧ found = files := by
  cases failure with
  | none => exact ⟨rfl, (Except.ok.inj h).symm⟩
  | some e => cases h

/-- Where all files are found, all of them are listed as skipped. -/
theorem createAll_of_contains (hthere : ∀ preset ∈ Preset.all,
    before.contains (preset.fileIn dir) = true) (crew : Crew ε π) {world : World ε π}
    (hdisk : world.disk = before) :
    (createAll dir).Leaves crew world (.ok ⟨[], allIn dir⟩) before := by
  obtain ⟨created, skipped, failure, after, hmakes, hrun⟩ :=
    exists_makes dir Preset.all crew world
  rw [hdisk] at hmakes
  obtain ⟨rfl, rfl, rfl, rfl⟩ := hmakes.of_contains hthere
  exact hrun ⟨[], []⟩

theorem Makes.createsAll (h : Makes dir Preset.all before created skipped failure after) :
    CreatesAll ε π dir before (ended (listed dir ⟨[], []⟩ created skipped) failure) after where
  keeps := h.keeps
  stays _ hapart := h.stays fun preset hpreset =>
    hapart _ (List.mem_map_of_mem (h.sublists.1.subset hpreset))
  spares hsettled _ := h.spares hsettled
  lists _ hresult := by
    obtain ⟨hended, rfl⟩ := ended_eq_ok hresult
    obtain ⟨hcreated, hskipped⟩ := h.sublists
    have hperm := (h.perm hended).map (Preset.fileIn dir)
    rw [List.map_append] at hperm
    have hnodup : (allIn dir).Nodup := List.Pairwise.map _
      (fun preset other hne heq => hne (Preset.fileIn_injective dir heq)) nodup_all
    exact ⟨hnodup, hperm, hcreated.map _, hskipped.map _⟩
  divides hsettled _ hresult := by
    obtain ⟨hended, rfl⟩ := ended_eq_ok hresult
    obtain ⟨rfl, rfl⟩ := h.divides hsettled nodup_all hended
    rw [allIn, List.filter_map, List.filter_map, listed, List.nil_append, List.nil_append]
    rfl
  loads _ hresult preset hpreset reader world hdisk := by
    obtain ⟨-, rfl⟩ := ended_eq_ok hresult
    obtain ⟨other, hother, heq⟩ := List.mem_map.1 hpreset
    rw [← Preset.fileIn_injective dir heq, (Document.load_ends _ reader world).result_eq, hdisk]
    exact Document.judgeLoad_of_readFile (h.reads nodup_all other hother) (other.parse_write _)
  changed _ hresult location := by
    obtain ⟨hended, rfl⟩ := ended_eq_ok hresult
    refine (h.changed hended location).imp_right ?_
    rintro ⟨preset, hpreset, hmade⟩
    exact ⟨_, List.mem_map_of_mem hpreset, hmade⟩
  again _ hresult crew _ hdisk :=
    createAll_of_contains (h.contains nodup_all (ended_eq_ok hresult).1) crew hdisk

/-- Creating the files of all presets in a directory, whatever is there. Directories stay, every
file is listed once and in order, what is created is loaded as the document of its preset, and a
second run skips everything. If the path of the directory never takes two dots behind a name
that is missing, nothing is overwritten, also where it fails, and what is skipped is what was
found before. -/
theorem createAll_spares (dir : Path) (crew : Crew ε π) (world : World ε π) :
    ∃ result after, (createAll dir).Leaves crew world result after ∧
      CreatesAll ε π dir world.disk result after := by
  obtain ⟨created, skipped, failure, after, hmakes, hrun⟩ :=
    exists_makes dir Preset.all crew world
  exact ⟨_, after, hrun ⟨[], []⟩, hmakes.createsAll⟩

/-- A directory with a configuration of its own, and another directory in it. -/
def configuredWorld : World Rehearsal Script where
  disk := ⟨[("build_config.json", .file "mine".toUTF8), ("sub", .directory [])], []⟩
  tools := Rehearsal.empty
  user := ⟨[], []⟩
  log := []

/-- Where two dots lead back from a directory that is there, the configuration is kept. -/
theorem createAll_spares_configured :
    let dir : Path := ⟨"sub/.."⟩
    let outcome := createAll dir rehearsalCrew configuredWorld
    configuredWorld.disk.Settled dir ∧
      outcome.1 = .ok ⟨[⟨"sub/../build_config.minimal.json"⟩, ⟨"sub/../build_config.full.json"⟩],
        [⟨"sub/../build_config.json"⟩]⟩ ∧
      outcome.2.disk.content? ["build_config.json"] =
        configuredWorld.disk.content? ["build_config.json"] := by
  intro dir outcome
  have hsettled : configuredWorld.disk.Settled dir :=
    Disk.settled_of_resolves (Disk.isDirectory_iff.1 (by decide +kernel)).1
  obtain ⟨result, after, ⟨left, hrun, hleft⟩, hcreates⟩ :=
    createAll_spares dir rehearsalCrew configuredWorld
  refine ⟨hsettled, by decide +kernel, ?_⟩
  have hdisk : outcome.2.disk = after := by
    rw [← hleft.disk, show outcome = (result, left) from hrun]
  rw [hdisk]
  exact hcreates.spares hsettled _ (by decide +kernel)

/-- Where two dots lead back from a name that is missing, nothing is found at first, and the
configuration is overwritten. -/
theorem createAll_overwrites :
    let dir : Path := ⟨"new/.."⟩
    let outcome := createAll dir rehearsalCrew configuredWorld
    configuredWorld.disk.content? ["build_config.json"] = some (.file "mine".toUTF8) ∧
      outcome.1 = .ok ⟨[⟨"new/../build_config.json"⟩, ⟨"new/../build_config.minimal.json"⟩,
        ⟨"new/../build_config.full.json"⟩], []⟩ ∧
      outcome.2.disk.content? ["build_config.json"] =
        some (.file Document.standard.write.toUTF8) ∧
      Document.standard.write ≠ "mine" := by
  intro dir outcome
  have hresult : outcome.1 = .ok ⟨[⟨"new/../build_config.json"⟩,
      ⟨"new/../build_config.minimal.json"⟩, ⟨"new/../build_config.full.json"⟩], []⟩ := by
    decide +kernel
  obtain ⟨created, skipped, failure, after, hmakes, hrun⟩ :=
    exists_makes dir Preset.all rehearsalCrew configuredWorld
  obtain ⟨left, hleft, hdisk⟩ := hrun ⟨[], []⟩
  have houtcome : outcome = (ended (listed dir ⟨[], []⟩ created skipped) failure, left) := hleft
  refine ⟨rfl, hresult, ?_, ?_⟩
  · rw [houtcome] at hresult ⊢
    obtain ⟨-, hended⟩ := ended_eq_ok hresult
    have hfiles : [⟨"new/../build_config.json"⟩, ⟨"new/../build_config.minimal.json"⟩,
        ⟨"new/../build_config.full.json"⟩] = created.map (Preset.fileIn dir) :=
      congrArg PresetFiles.created hended
    have hlisted : Preset.standard.fileIn dir ∈ created.map (Preset.fileIn dir) := by
      rw [← hfiles]
      decide +kernel
    have hcreated : .standard ∈ created := by
      obtain ⟨preset, hpreset, heq⟩ := List.mem_map.1 hlisted
      rwa [← Preset.fileIn_injective dir heq]
    have hreads := hmakes.reads nodup_all _ hcreated
    obtain ⟨-, hcontent, -⟩ := Disk.readFile_eq_ok_iff.1 hreads
    rw [Disk.placeOf_of_current hmakes.keeps.current] at hcontent
    have hplace : configuredWorld.disk.placeOf (Preset.standard.fileIn dir) =
        ["build_config.json"] := by
      decide +kernel
    rw [hplace] at hcontent
    rw [hdisk.disk]
    exact hcontent
  · intro hsame
    have hread := Preset.standard.parse_write dir
    rw [show Preset.standard.document.write = "mine" from hsame] at hread
    have hnone : (Document.parse "mine" dir).toOption.isNone = true := by
      decide +kernel
    rw [hread] at hnone
    cases hnone

end PresetFiles

end BuildConductor
