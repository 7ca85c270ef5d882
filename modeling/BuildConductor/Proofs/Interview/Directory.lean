import BuildConductor.Proofs.Interview.Saving

/-! Where an interview saves.

The file is looked for from the directory, under the name that was answered. If that name is
relative and has no two dots, the file is below the directory and nothing outside is changed
but for directories that were missing on the way to it. Any other name is taken as it is: it
keeps to the directory exactly if it happens to lead back into it (`Disk.Confines`). -/
namespace BuildConductor

variable {ε π : Type}

/-! ### Names that go down -/

namespace Path

/-- A path ends as what was seen from a directory. -/
theorem exists_joinList (base more : List UInt8) : ∃ front, joinList base more = front ++ more := by
  unfold joinList
  split
  · exact ⟨[], rfl⟩
  split
  · exact ⟨base, rfl⟩
  · exact ⟨base ++ [slash], by simp⟩

/-- Whether a path leads down from wherever it is seen. -/
structure Descends (path : Path) : Prop where
  relative : path.isAbsolute = false
  plain : (".." : SystemText) ∉ Disk.steps path

end Path

namespace Disk
variable {disk after : Disk} {dir path more : Path} {location : Location} {bytes : ByteArray}

/-- Whether a path leads to a place below that of a directory. -/
def Below (disk : Disk) (dir path : Path) : Prop :=
  disk.placeOf dir <+: disk.placeOf path ∧ disk.placeOf path ≠ disk.placeOf dir

/-- Whether nothing has changed outside a directory, but for directories that were missing on the
way to it. -/
def ChangesWithin (disk : Disk) (dir : Path) (after : Disk) : Prop :=
  ∀ location, ¬disk.placeOf dir <+: location → disk.PavedAt dir after location

/-- Whether a path leads to a place below a directory, and what is missing on its way is in the
directory or on the way to it. -/
structure Confines (disk : Disk) (dir path : Path) : Prop where
  below : disk.Below dir path
  missing : ∀ location, disk.OnTheWay path location → disk.content? location = none →
    disk.placeOf dir <+: location ∨ disk.OnTheWay dir location

/-- Nothing is missing on the way to what is found. -/
theorem there_of_resolves (h : disk.Resolves path)
    (hplace : disk.content? (disk.placeOf path) ≠ none) (hway : disk.OnTheWay path location) :
    disk.content? location ≠ none := by
  obtain ⟨names, hnames, rfl⟩ := hway
  exact SettledFrom.there (settled_of_resolves h) hplace names hnames

theorem Paves.changesWithin (h : disk.Paves path after)
    (hmissing : ∀ location, disk.OnTheWay path location → disk.content? location = none →
      disk.placeOf dir <+: location ∨ disk.OnTheWay dir location) :
    disk.ChangesWithin dir after := by
  intro location houtside
  rcases h.places location with hsame | ⟨hnone, hmade, hway⟩
  · exact .inl hsame
  · exact .inr ⟨hnone, hmade, (hmissing location hway hnone).resolve_left houtside⟩

/-- A file that is written keeps to a directory exactly if its path does. -/
theorem Writes.confines_iff (h : disk.Writes path bytes after) :
    disk.Confines dir path ↔ disk.Below dir path ∧ disk.ChangesWithin dir after := by
  constructor
  · refine fun hconfines => ⟨hconfines.below, fun location houtside => ?_⟩
    have hne : location ≠ disk.placeOf path := by
      rintro rfl
      exact houtside hconfines.below.1
    rcases h.others location hne with hsame | ⟨hnone, hmade, hway⟩
    · exact .inl hsame
    · exact .inr ⟨hnone, hmade, (hconfines.missing location hway hnone).resolve_left houtside⟩
  · rintro ⟨hbelow, hchanges⟩
    refine ⟨hbelow, fun location hway hnone => ?_⟩
    by_cases hinside : disk.placeOf dir <+: location
    · exact .inl hinside
    rcases hchanges location hinside with hsame | ⟨-, -, hdir⟩
    · -- What was missing on the way to the file is a directory when the file is there.
      obtain ⟨hresolves, hcontent, -⟩ := readFile_eq_ok_iff.1 h.read
      obtain ⟨names, hnames, rfl⟩ := hway
      have hthere := there_of_resolves hresolves (by rw [hcontent]; nofun)
        ⟨names, hnames, by rw [origin_of_current h.current]⟩
      exact absurd (hsame.trans hnone) hthere
    · exact .inr hdir

/-- What goes down from a directory stays in it. -/
theorem onTheWay_join_of_descends (h : more.Descends)
    (hway : disk.OnTheWay (dir.join more) location) :
    disk.placeOf dir <+: location ∨ disk.OnTheWay dir location := by
  rcases (onTheWay_join h.relative).1 hway with hdir | ⟨names, hnames, rfl⟩
  · exact .inr hdir
  · rw [foldl_onward_of_plain fun hmem => h.plain (hnames.subset hmem)]
    exact .inl (List.prefix_append _ _)

/-- A path that goes down to a name keeps to the directory that it is seen from. -/
theorem confines_join_of_descends (h : more.Descends) {last : SystemText}
    (hlast : (steps more).getLast? = some last) (hdot : last ≠ ".") :
    disk.Confines dir (dir.join more) := by
  have hplace : disk.placeOf (dir.join more) =
      disk.placeOf dir ++ (steps more).filter fun name : SystemText => name != "." := by
    rw [placeOf_join h.relative, foldl_onward_of_plain h.plain]
  refine ⟨⟨?_, fun hsame => ?_⟩, fun location hway _ => onTheWay_join_of_descends h hway⟩
  · rw [hplace]
    exact List.prefix_append _ _
  · rw [hplace, List.append_right_eq_self, List.filter_eq_nil_iff] at hsame
    exact hsame last (List.mem_of_getLast? hlast) (by simp [hdot])

/-- The last name of a path ends as the path does, if that is not in a slash. -/
theorem getLast?_steps {front ending : List UInt8} (hbytes : path.bytes = front ++ ending)
    (hslash : Path.slash ∉ ending) (hne : ending ≠ []) :
    ∃ piece, (steps path).getLast? = some ⟨piece ++ ending⟩ := by
  obtain ⟨piece, hpiece⟩ := Path.getLast?_namesOf_append hslash hne front
  refine ⟨piece, ?_⟩
  rw [steps_eq_namesOf, hbytes, List.getLast?_map, hpiece]
  rfl

end Disk

namespace Interview
variable {crew : Crew ε π} {world : World ε π}

/-! ### The name of the file -/

theorem exists_fileName (answer : String) :
    ∃ front, (⟨fileName answer⟩ : Path).bytes = front ++ (SystemText.ofText fileEnding).bytes := by
  suffices hname : ∃ front, (fileName answer).toList = front ++ fileEnding.toList by
    obtain ⟨front, hfront⟩ := hname
    exact ⟨Text.utf8Bytes front, by rw [SystemText.ofText, hfront, Text.utf8Bytes_append]; rfl⟩
  unfold fileName
  simp only
  generalize (if answer.isEmpty then defaultFileName else answer) = name
  split
  · rename_i hsuffix
    obtain ⟨front, hfront⟩ := List.isSuffixOf_iff_suffix.1 hsuffix
    exact ⟨front, hfront.symm⟩
  · exact ⟨name.toList, String.toList_append⟩

/-- The last name of a path to a file that an interview saves. -/
theorem getLast?_steps_fileName (answer : String) :
    ∃ piece, (Disk.steps ⟨fileName answer⟩).getLast? =
      some ⟨piece ++ (SystemText.ofText fileEnding).bytes⟩ := by
  obtain ⟨front, hfront⟩ := exists_fileName answer
  exact Disk.getLast?_steps hfront (by decide +kernel) (by decide +kernel)

theorem getLast?_steps_join (dir : Path) (answer : String) :
    ∃ piece, (Disk.steps (dir.join ⟨fileName answer⟩)).getLast? =
      some ⟨piece ++ (SystemText.ofText fileEnding).bytes⟩ := by
  obtain ⟨front, hfront⟩ := exists_fileName answer
  obtain ⟨before, hbefore⟩ := Path.exists_joinList dir.bytes (⟨fileName answer⟩ : Path).bytes
  have hbytes : (dir.join ⟨fileName answer⟩).bytes =
      (before ++ front) ++ (SystemText.ofText fileEnding).bytes := by
    rw [Path.join, Path.bytes_ofSystem, hbefore, hfront, List.append_assoc]
  exact Disk.getLast?_steps hbytes (by decide +kernel) (by decide +kernel)

/-- A file name that goes down leads into the directory that it is seen from. -/
theorem confines_of_descends {answer : String} (h : (⟨fileName answer⟩ : Path).Descends)
    (disk : Disk) (dir : Path) : disk.Confines dir (dir.join ⟨fileName answer⟩) := by
  obtain ⟨piece, hlast⟩ := getLast?_steps_fileName answer
  refine Disk.confines_join_of_descends h hlast fun hdot => ?_
  have hlength := congrArg (fun name : SystemText => name.bytes.length) hdot
  have hending : (SystemText.ofText fileEnding).bytes.length = 5 := by decide +kernel
  simp only [List.length_append, hending] at hlength
  have hsingle : (SystemText.ofText ".").bytes.length = 1 := by decide
  omega

/-! ### What is saved -/

/-- A file that an interview has saved for an answer. -/
structure SavedAs (dir : Path) (answer : String) (before after : Disk) (path : Path) : Prop where
  path_eq : path = dir.join ⟨fileName answer⟩
  named : ∃ last, (Disk.steps path).getLast? = some last ∧
    (SystemText.ofText fileEnding).bytes <:+ last.bytes
  isFile : ∃ bytes, after.readFile path = .ok bytes
  /-- It is below the directory, and nothing outside is changed, exactly if its path keeps to the
  directory. -/
  confines_iff : before.Confines dir path ↔ before.Below dir path ∧ before.ChangesWithin dir after
  /-- A name that goes down does. -/
  confines : (⟨fileName answer⟩ : Path).Descends → before.Confines dir path

/-- Where an interview saves, whoever is asked and wherever the directory is. The file that it
names at the end is there under a name with the right ending. It is below the directory, and
nothing else is changed outside than directories that were missing on the way to it, exactly if
the path of the file keeps to the directory, as it does if the answered name is relative and has
no two dots. An interview that fails changes nothing outside for such a name either. -/
theorem run_saves_below (dir : Path) (crew : Crew ε π) (world : World ε π) :
    ∃ questions result left, run dir crew world = (result, left) ∧
      left.questions = world.questions ++ questions ∧
      (∀ path, result = .ok path → ∃ answer,
        (crew.prompter.repliesTo world.user questions).getLast? = some (.ok answer) ∧
          SavedAs dir answer world.disk left.disk path) ∧
      ∀ e, result = .error e → left.disk = world.disk ∨ ∃ answer,
        (crew.prompter.repliesTo world.user questions).getLast? = some (.ok answer) ∧
          ((⟨fileName answer⟩ : Path).Descends → world.disk.ChangesWithin dir left.disk) := by
  obtain ⟨questions, result, left, hrun, hsaves⟩ := exists_savesOnce dir crew world
  refine ⟨questions, result, left, hrun, hsaves.asked, fun path hpath => ?_, fun e herror => ?_⟩
  · obtain ⟨answer, doc, hlast, rfl, -, hwrites, -⟩ := hsaves.saved path hpath
    obtain ⟨piece, hname⟩ := getLast?_steps_join dir answer
    refine ⟨answer, hlast, rfl, ⟨_, hname, ?_⟩, ⟨_, hwrites.read⟩, hwrites.confines_iff,
      fun hdescends => confines_of_descends hdescends world.disk dir⟩
    exact List.suffix_append _ _
  · rcases hsaves.failure e herror with ⟨cause, rfl⟩ | ⟨cause, rfl⟩
    · exact .inl (hsaves.unwritten cause herror)
    · obtain ⟨answer, hlast, hpaves⟩ := hsaves.unsaved cause herror
      refine .inr ⟨answer, hlast, fun hdescends => hpaves.changesWithin fun location hway _ => ?_⟩
      exact Disk.onTheWay_join_of_descends hdescends hway

theorem run_saves_below_sub :
    let world := answeredWorld "sub/mine"
    let outcome := run ⟨"out"⟩ rehearsalCrew world
    outcome.1.toOption = some ⟨"out/sub/mine.json"⟩ ∧
      world.disk.Below ⟨"out"⟩ ⟨"out/sub/mine.json"⟩ ∧
      world.disk.ChangesWithin ⟨"out"⟩ outcome.2.disk := by
  intro world outcome
  have hpath : outcome.1.toOption = some ⟨"out/sub/mine.json"⟩ := by decide +kernel
  obtain ⟨questions, result, left, hrun, -, hsaved, -⟩ :=
    run_saves_below ⟨"out"⟩ rehearsalCrew world
  have houtcome : outcome = (result, left) := hrun
  rw [houtcome] at hpath ⊢
  obtain ⟨answer, -, hsaves⟩ := hsaved _ (except_eq_ok_of_toOption hpath)
  have hconfines : world.disk.Confines ⟨"out"⟩ ⟨"out/sub/mine.json"⟩ := by
    have hjoin : (⟨"out/sub/mine.json"⟩ : Path) = Path.join ⟨"out"⟩ ⟨"sub/mine.json"⟩ := by
      decide +kernel
    rw [hjoin]
    exact Disk.confines_join_of_descends ⟨by decide +kernel, by decide +kernel⟩
      (show _ = some (SystemText.ofText "mine.json") by decide +kernel) (by decide +kernel)
  exact ⟨hpath, hsaves.confines_iff.1 hconfines⟩

/-- A name with two dots leads out of the directory. -/
theorem run_saves_beside :
    let world := answeredWorld "../mine"
    let outcome := run ⟨"out"⟩ rehearsalCrew world
    outcome.1.toOption = some ⟨"out/../mine.json"⟩ ∧
      ¬world.disk.placeOf ⟨"out"⟩ <+: world.disk.placeOf ⟨"out/../mine.json"⟩ ∧
      world.disk.contains ⟨"mine.json"⟩ = false ∧
      outcome.2.disk.contains ⟨"mine.json"⟩ = true := by
  intro world outcome
  exact ⟨by decide +kernel, by decide +kernel, by decide +kernel, by decide +kernel⟩

end Interview

end BuildConductor
