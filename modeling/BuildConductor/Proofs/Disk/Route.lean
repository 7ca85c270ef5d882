import BuildConductor.Proofs.Disk.Content

/-! The route of a path.

Every name of a path leads from one place to the next. A path is settled if it never takes two
dots behind a name that is missing. So where it leads to a place that is missing, it goes down
from there (`Settled.prefix_of_missing`), and what is at the place that it leads to is found
under it (`Settled.resolves`). Without that nothing may be found although something is there,
and the directories that are made for a path can make it lead to what was there all along. -/
namespace BuildConductor.Disk

variable {disk after : Disk} {path : Path} {location directory start : Location} {last : SystemText}

/-! ### Places and names -/

/-- Names without two dots go down. -/
theorem foldl_onward_of_plain {names : List SystemText} (h : (".." : SystemText) ∉ names)
    (start : Location) :
    names.foldl onward start = start ++ names.filter fun name : SystemText => name != "." := by
  induction names generalizing start with
  | nil => exact (List.append_nil start).symm
  | cons name rest ih =>
    obtain ⟨hname, hrest⟩ := not_or.1 fun hmem => h (List.mem_cons.2 hmem)
    rw [List.foldl_cons, ih hrest, onward, if_neg (Ne.symm hname)]
    by_cases hdot : name = "."
    · rw [if_pos hdot, List.filter_cons_of_neg (by simp [hdot])]
    · rw [if_neg hdot, List.filter_cons_of_pos (by simp [hdot]), List.append_assoc]
      rfl

/-- What is below a place where something is, is in a directory. -/
theorem content?_of_append {name : SystemText} {rest : Location}
    (h : disk.content? (location ++ name :: rest) ≠ none) :
    disk.content? location = some .directory := by
  by_cases hdirectory : disk.content? location = some .directory
  · exact hdirectory
  · exact absurd (Node.content?_append_of_ne hdirectory) h

/-- Nothing is below a place that is missing. -/
theorem content?_append_of_missing (h : disk.content? location = none) (name : SystemText)
    (rest : Location) : disk.content? (location ++ name :: rest) = none := by
  refine Node.content?_append_of_ne fun hdirectory => ?_
  cases h.symm.trans hdirectory

theorem short_of_walk {names : List SystemText} (h : disk.walk start names = .ok location) :
    ∀ name ∈ names, name ≠ "." → name ≠ ".." → ¬longestName < name.bytes.length := by
  induction names generalizing start with
  | nil => exact List.forall_mem_nil _
  | cons name rest ih =>
    obtain ⟨henters, hrest⟩ := walk_cons_eq_ok.1 h
    exact List.forall_mem_cons.2 ⟨fun hsingle hdouble => (henters hsingle hdouble).1, ih hrest⟩

/-- Where names lead on, the first of them do. -/
theorem walk_append_eq_ok {front back : List SystemText} :
    disk.walk start (front ++ back) = .ok location ↔
      ∃ middle, disk.walk start front = .ok middle ∧ disk.walk middle back = .ok location := by
  induction front generalizing start with
  | nil =>
    constructor
    · exact fun h => ⟨start, rfl, h⟩
    · rintro ⟨_, hstart, h⟩
      cases hstart
      exact h
  | cons name rest ih =>
    rw [List.cons_append, walk_cons_eq_ok, ih]
    constructor
    · rintro ⟨henters, middle, hrest, hback⟩
      exact ⟨middle, walk_cons_eq_ok.2 ⟨henters, hrest⟩, hback⟩
    · rintro ⟨middle, hfront, hback⟩
      obtain ⟨henters, hrest⟩ := walk_cons_eq_ok.1 hfront
      exact ⟨henters, middle, hrest, hback⟩

theorem directory_of_start (h : disk.start path = .ok start) :
    disk.content? start = some .directory := by
  rw [content?_eq_directory]
  rcases start_eq_ok.1 h with ⟨-, rfl⟩ | ⟨-, rfl, hcurrent⟩
  · exact ⟨disk.root, rfl⟩
  · exact hcurrent

/-- Names that lead on go from directory to directory. -/
theorem directories_of_walk {names : List SystemText}
    (hstart : disk.content? start = some .directory)
    (h : disk.walk start names = .ok location) :
    ∀ front, front <+: names → disk.content? (front.foldl onward start) = some .directory := by
  rintro front ⟨back, rfl⟩
  obtain ⟨middle, hmiddle, -⟩ := walk_append_eq_ok.1 h
  rw [← walk_eq_foldl hmiddle]
  exact content?_eq_directory.2 (directory_of_walk (content?_eq_directory.1 hstart) hmiddle)

/-- Names lead on as long as each of them leads to a directory. -/
theorem walk_of_directories {names : List SystemText}
    (hshort : ∀ name ∈ names, name ≠ "." → name ≠ ".." → ¬longestName < name.bytes.length)
    (h : ∀ front, front <+: names → disk.content? (front.foldl onward start) = some .directory) :
    disk.walk start names = .ok (names.foldl onward start) := by
  induction names generalizing start with
  | nil => rfl
  | cons name rest ih =>
    obtain ⟨hname, hrest⟩ := List.forall_mem_cons.1 hshort
    refine walk_cons_eq_ok.2 ⟨fun hsingle hdouble => ⟨hname hsingle hdouble, ?_⟩, ?_⟩
    · have hentered := h [name] ((List.prefix_cons_inj name).2 List.nil_prefix)
      rw [List.foldl_cons, List.foldl_nil, onward, if_neg hsingle, if_neg hdouble] at hentered
      exact content?_eq_directory.1 hentered
    · exact ih hrest fun front hfront =>
        h (name :: front) ((List.prefix_cons_inj name).2 hfront)

/-! ### What a path resolves to -/

/-- A path that resolves leads to the place of its target. -/
theorem location_of_resolve {target : Target} (h : disk.resolve path = .ok target) :
    target.location = disk.placeOf path := by
  have hlast {directory : Location} {last : SystemText}
      (happroach : disk.approach path = .ok (directory, some last)) :
      disk.placeOf path = onward directory last := by
    obtain ⟨-, ⟨start, hstart, hwalk⟩, hlast⟩ := approach_eq_ok.1 happroach
    obtain ⟨front, hfront⟩ := List.getLast?_eq_some_iff.1 hlast
    rw [hfront, List.dropLast_concat] at hwalk
    rw [placeOf, hfront, List.foldl_append, origin_of_start hstart, ← walk_eq_foldl hwalk]
    rfl
  unfold resolve at h
  split at h
  · cases h
  · rename_i directory happroach
    cases h
    obtain ⟨-, ⟨start, hstart, hwalk⟩, hnone⟩ := approach_eq_ok.1 happroach
    have hsteps : steps path = [] := List.getLast?_eq_none_iff.1 hnone
    rw [hsteps] at hwalk
    cases hwalk
    rw [placeOf, hsteps, origin_of_start hstart]
    rfl
  · rename_i directory last happroach
    rw [hlast happroach]
    unfold Disk.target at h
    unfold onward
    split at h
    · rename_i hsingle
      cases h
      rw [if_pos hsingle]
      rfl
    rename_i hsingle
    split at h
    · rename_i hdouble
      cases h
      rw [if_neg hsingle, if_pos hdouble]
      rfl
    rename_i hdouble
    rw [if_neg hsingle, if_neg hdouble]
    split at h <;> cases h <;> rfl

/-- Whether a path resolves. -/
def Resolves (disk : Disk) (path : Path) : Prop :=
  ∃ target, disk.resolve path = .ok target

/-- A path resolves if it leads to a directory for its last name, and that name can be looked
up. -/
theorem resolves_iff :
    disk.Resolves path ↔ ∃ directory last, disk.approach path = .ok (directory, last) ∧
      ∀ name ∈ last, name ≠ "." → name ≠ ".." → ¬longestName < name.bytes.length := by
  cases happroach : disk.approach path with
  | error e => simp [Resolves, resolve, happroach]
  | ok r =>
    obtain ⟨directory, last⟩ := r
    have hlooked : disk.Resolves path ↔
        ∀ name ∈ last, name ≠ "." → name ≠ ".." → ¬longestName < name.bytes.length := by
      cases last with
      | none => simp [Resolves, resolve, happroach]
      | some name =>
        simp only [Resolves, resolve, happroach, target, entry?, Option.mem_some, forall_eq']
        by_cases hsingle : name = "."
        · simp [hsingle]
        by_cases hdouble : name = ".."
        · simp [hdouble, doubleDot_ne_dot]
        by_cases hlong : longestName < name.bytes.length
        · simp [hsingle, hdouble, hlong]
        · cases disk.lookup? (directory ++ [name]) <;> simp [hsingle, hdouble, hlong]
    rw [hlooked]
    constructor
    · exact fun h => ⟨directory, last, rfl, h⟩
    · rintro ⟨_, _, hsame, h⟩
      cases hsame
      exact h

/-- What a path is found to be is what is at its place, unless that is a file and the path
names a directory. -/
theorem stat_eq_ok_iff {node : Node} :
    disk.stat path = .ok (location, node) ↔
      disk.Resolves path ∧ disk.placeOf path = location ∧ disk.lookup? location = some node ∧
        (endsInSlash path = true → node.isDirectory = true) := by
  unfold stat Resolves
  cases hresolve : disk.resolve path with
  | error e => simp
  | ok target =>
    have hplace := location_of_resolve hresolve
    simp only [Except.ok.injEq, exists_eq', true_and, ← hplace]
    cases target with
    | free free =>
      obtain ⟨_, _, rfl, -, hfree⟩ := exists_free hresolve
      simp only [reduceCtorEq, false_iff, Target.location]
      rintro ⟨rfl, hlookup, -⟩
      cases hfree.symm.trans hlookup
    | dots there dots =>
      obtain ⟨entries, hentries⟩ := directory_of_resolve_dots hresolve
      simp only [hentries, Target.location]
      constructor
      · intro h
        cases h
        exact ⟨rfl, hentries, fun _ => rfl⟩
      · rintro ⟨rfl, hlookup, -⟩
        cases hentries.symm.trans hlookup
        rfl
    | present there found =>
      obtain ⟨_, _, -, -, hfound⟩ := exists_finds hresolve
      simp only [Target.location]
      constructor
      · intro h
        split at h
        · cases h
        · rename_i hslash
          cases h
          exact ⟨rfl, hfound, fun hends => by simpa [hends] using hslash⟩
      · rintro ⟨rfl, hlookup, hdirectory⟩
        cases hfound.symm.trans hlookup
        rw [if_neg]
        intro hslash
        obtain ⟨hends, hfile⟩ := Bool.and_eq_true_iff.1 hslash
        rw [hdirectory hends] at hfile
        cases hfile

theorem isDirectory_iff_content? {node : Node} :
    node.isDirectory = true ↔ node.content = .directory := by
  cases node <;> simp [Node.isDirectory, Node.content]

/-- Something is found under a path that resolves, if it is at the path's place. -/
theorem contains_iff :
    disk.contains path = true ↔ disk.Resolves path ∧ ∃ content,
      disk.content? (disk.placeOf path) = some content ∧
        (endsInSlash path = true → content = .directory) := by
  have hstat : disk.contains path = true ↔ ∃ found, disk.stat path = .ok found := by
    unfold contains
    cases disk.stat path <;> simp [Except.toOption]
  rw [hstat]
  constructor
  · rintro ⟨⟨location, node⟩, hfound⟩
    obtain ⟨hresolves, rfl, hlookup, hslash⟩ := stat_eq_ok_iff.1 hfound
    refine ⟨hresolves, node.content, ?_, fun hends => isDirectory_iff_content?.1 (hslash hends)⟩
    exact Option.map_eq_some_iff.2 ⟨node, hlookup, rfl⟩
  · rintro ⟨hresolves, content, hcontent, hslash⟩
    obtain ⟨node, hlookup, rfl⟩ := Option.map_eq_some_iff.1 hcontent
    exact ⟨_, stat_eq_ok_iff.2 ⟨hresolves, rfl, hlookup, fun hends =>
      isDirectory_iff_content?.2 (hslash hends)⟩⟩

theorem isDirectory_iff :
    disk.isDirectory path = true ↔
      disk.Resolves path ∧ disk.content? (disk.placeOf path) = some .directory := by
  have hstat : disk.isDirectory path = true ↔
      ∃ location entries, disk.stat path = .ok (location, .directory entries) := by
    unfold isDirectory
    cases disk.stat path with
    | error e => simp
    | ok found =>
      obtain ⟨location, node⟩ := found
      cases node <;> simp
  rw [hstat, content?_eq_directory]
  constructor
  · rintro ⟨location, entries, hfound⟩
    obtain ⟨hresolves, rfl, hlookup, -⟩ := stat_eq_ok_iff.1 hfound
    exact ⟨hresolves, entries, hlookup⟩
  · rintro ⟨hresolves, entries, hlookup⟩
    exact ⟨_, entries, stat_eq_ok_iff.2 ⟨hresolves, rfl, hlookup, fun _ => rfl⟩⟩

theorem readFile_eq_ok_iff {bytes : ByteArray} :
    disk.readFile path = .ok bytes ↔
      disk.Resolves path ∧ disk.content? (disk.placeOf path) = some (.file bytes) ∧
        endsInSlash path = false := by
  have hstat : disk.readFile path = .ok bytes ↔
      ∃ location, disk.stat path = .ok (location, .file bytes) := by
    unfold readFile
    cases disk.stat path with
    | error e => simp
    | ok found =>
      obtain ⟨location, node⟩ := found
      cases node <;> simp
  rw [hstat, content?_eq_file]
  constructor
  · rintro ⟨location, hfound⟩
    obtain ⟨hresolves, rfl, hlookup, hslash⟩ := stat_eq_ok_iff.1 hfound
    refine ⟨hresolves, hlookup, eq_false_of_ne_true fun hends => ?_⟩
    cases hslash hends
  · rintro ⟨hresolves, hlookup, hslash⟩
    refine ⟨_, stat_eq_ok_iff.2 ⟨hresolves, rfl, hlookup, fun hends => ?_⟩⟩
    rw [hslash] at hends
    cases hends

/-! ### On another disk -/

theorem origin_of_current (h : after.current = disk.current) (path : Path) :
    after.origin path = disk.origin path := by
  simp only [origin, h]

theorem placeOf_of_current (h : after.current = disk.current) (path : Path) :
    after.placeOf path = disk.placeOf path := by
  simp only [placeOf, origin, h]

theorem resolves_of_keeps (hkeeps : disk.Keeps after) (h : disk.Resolves path) :
    after.Resolves path := by
  obtain ⟨directory, last, happroach, hshort⟩ := resolves_iff.1 h
  exact resolves_iff.2 ⟨directory, last, approach_of_keeps hkeeps happroach, hshort⟩

/-- What is found under a path is found there as long as it is at its place. -/
theorem contains_of_keeps (hkeeps : disk.Keeps after) (h : disk.contains path = true)
    (hplace : after.content? (disk.placeOf path) = disk.content? (disk.placeOf path)) :
    after.contains path = true := by
  obtain ⟨hresolves, hcontent⟩ := contains_iff.1 h
  rw [← hplace] at hcontent
  rw [contains_iff, placeOf_of_current hkeeps.current]
  exact ⟨resolves_of_keeps hkeeps hresolves, hcontent⟩

theorem readFile_of_keeps {bytes : ByteArray} (hkeeps : disk.Keeps after)
    (h : disk.readFile path = .ok bytes)
    (hplace : after.content? (disk.placeOf path) = disk.content? (disk.placeOf path)) :
    after.readFile path = .ok bytes := by
  obtain ⟨hresolves, hcontent, hslash⟩ := readFile_eq_ok_iff.1 h
  rw [readFile_eq_ok_iff, placeOf_of_current hkeeps.current, hplace]
  exact ⟨resolves_of_keeps hkeeps hresolves, hcontent, hslash⟩

/-! ### Settled paths -/

/-- Whether two dots among names are never taken where nothing is. -/
def SettledFrom (disk : Disk) (start : Location) (names : List SystemText) : Prop :=
  ∀ front, front ++ [(".." : SystemText)] <+: names →
    disk.content? (front.foldl onward start) ≠ none

/-- Whether a path never takes two dots behind a name that is missing. -/
def Settled (disk : Disk) (path : Path) : Prop :=
  disk.SettledFrom (disk.origin path) (steps path)

theorem SettledFrom.of_cons {name : SystemText} {rest : List SystemText}
    (h : disk.SettledFrom start (name :: rest)) : disk.SettledFrom (onward start name) rest :=
  fun front hfront => h (name :: front) ((List.prefix_cons_inj name).2 hfront)

theorem SettledFrom.of_prefix {names more : List SystemText} (h : disk.SettledFrom start more)
    (hnames : names <+: more) : disk.SettledFrom start names :=
  fun front hfront => h front (hfront.trans hnames)

theorem SettledFrom.of_append {front back : List SystemText}
    (h : disk.SettledFrom start (front ++ back)) :
    disk.SettledFrom (front.foldl onward start) back := by
  intro names hnames
  rw [← List.foldl_append]
  refine h (front ++ names) ?_
  rw [List.append_assoc]
  exact (List.prefix_append_right_inj front).2 hnames

/-- A path without two dots is settled on every disk. -/
theorem settled_of_plain (disk : Disk) (h : (".." : SystemText) ∉ steps path) : disk.Settled path :=
  fun _ hfront => absurd (hfront.subset (by simp)) h

/-- So is every path that leads through directories that are there. -/
theorem settled_of_resolves (h : disk.Resolves path) : disk.Settled path := by
  obtain ⟨directory, last, happroach, -⟩ := resolves_iff.1 h
  obtain ⟨-, ⟨start, hstart, hwalk⟩, -⟩ := approach_eq_ok.1 happroach
  rintro front ⟨rest, hrest⟩
  have hfront : front <+: (steps path).dropLast := by
    rw [← hrest, List.append_assoc, List.dropLast_append_of_ne_nil (by simp)]
    exact List.prefix_append _ _
  rw [origin_of_start hstart, directories_of_walk (directory_of_start hstart) hwalk front hfront]
  nofun

/-- It stays so as long as what is there stays. -/
theorem Settled.of_stays (h : disk.Settled path) (hcurrent : after.current = disk.current)
    (hstays : ∀ location, disk.content? location ≠ none → after.content? location ≠ none) :
    after.Settled path := by
  intro front hfront
  rw [origin_of_current hcurrent]
  exact hstays _ (h front hfront)

/-- Names lead down from a place that is missing. -/
theorem SettledFrom.prefix_of_missing {names : List SystemText} (h : disk.SettledFrom start names)
    (hmissing : disk.content? start = none) : start <+: names.foldl onward start := by
  induction names generalizing start with
  | nil => exact List.prefix_rfl
  | cons name rest ih =>
    have hname : name ≠ ".." := by
      rintro rfl
      exact h [] (List.prefix_append [(".." : SystemText)] rest) hmissing
    by_cases hdot : name = "."
    · have hstay : onward start name = start := if_pos hdot
      have hrest := h.of_cons
      rw [hstay] at hrest
      rw [List.foldl_cons, hstay]
      exact ih hrest hmissing
    · have hdown : onward start name = start ++ [name] := by
        rw [onward, if_neg hdot, if_neg hname]
      have hrest := h.of_cons
      rw [hdown] at hrest
      rw [List.foldl_cons, hdown]
      refine (List.prefix_append start [name]).trans (ih hrest ?_)
      exact content?_append_of_missing hmissing name []

/-- A place on the way of a settled path that is missing is above the place that it leads
to. -/
theorem Settled.prefix_of_missing (h : disk.Settled path) (hway : disk.OnTheWay path location)
    (hmissing : disk.content? location = none) : location <+: disk.placeOf path := by
  obtain ⟨names, ⟨rest, hrest⟩, rfl⟩ := hway
  have hall : disk.SettledFrom (disk.origin path) (names ++ rest) := hrest ▸ h
  have hdown := hall.of_append.prefix_of_missing hmissing
  rwa [← List.foldl_append, hrest] at hdown

/-- Nothing is missing on the way to what is there. -/
theorem SettledFrom.there {names : List SystemText} (h : disk.SettledFrom start names)
    (hlast : disk.content? (names.foldl onward start) ≠ none) :
    ∀ front, front <+: names → disk.content? (front.foldl onward start) ≠ none := by
  induction names generalizing start with
  | nil =>
    intro front hfront
    rwa [List.prefix_nil.1 hfront]
  | cons name rest ih =>
    have hrest := ih h.of_cons hlast
    have hnext : disk.content? (onward start name) ≠ none := hrest [] List.nil_prefix
    have hstart : disk.content? start ≠ none := by
      unfold onward at hnext
      split at hnext
      · exact hnext
      split at hnext
      · rename_i hdouble
        exact h [] ⟨rest, by rw [hdouble]; rfl⟩
      · have hbelow : disk.content? (start ++ name :: []) ≠ none := hnext
        rw [content?_of_append hbelow]
        nofun
    intro front hfront
    cases front with
    | nil => exact hstart
    | cons other more =>
      obtain ⟨rfl, hmore⟩ := List.cons_prefix_cons.1 hfront
      exact hrest more hmore

/-- Whether no file has become a directory. -/
def KeepsFiles (disk after : Disk) : Prop :=
  ∀ location, after.content? location = some .directory → disk.content? location ≠ none →
    disk.content? location = some .directory

/-- What leads to a place on one disk leads there on another, if something is there. -/
theorem Settled.approach (h : disk.Settled path) (hcurrent : after.current = disk.current)
    (hfiles : disk.KeepsFiles after) {last : Option SystemText}
    (hafter : after.approach path = .ok (directory, last))
    (hdirectory : disk.content? directory ≠ none) :
    disk.approach path = .ok (directory, last) := by
  obtain ⟨htaken, ⟨start, hstart, hwalk⟩, hlast⟩ := approach_eq_ok.1 hafter
  have horigin : disk.origin path = start := by
    rw [← origin_of_current hcurrent, origin_of_start hstart]
  have hbefore : disk.SettledFrom start (steps path).dropLast :=
    horigin ▸ h.of_prefix (List.dropLast_prefix _)
  have hplace := walk_eq_foldl hwalk
  rw [hplace] at hdirectory
  have hall : ∀ front, front <+: (steps path).dropLast →
      disk.content? (front.foldl onward start) = some .directory := fun front hfront =>
    hfiles _ (directories_of_walk (directory_of_start hstart) hwalk front hfront)
      (hbefore.there hdirectory front hfront)
  refine approach_eq_ok.2 ⟨htaken, ⟨start, start_eq_ok.2 ?_, ?_⟩, hlast⟩
  · rcases start_eq_ok.1 hstart with hroot | ⟨hrelative, rfl, -⟩
    · exact .inl hroot
    · refine .inr ⟨hrelative, hcurrent, content?_eq_directory.1 ?_⟩
      rw [← hcurrent]
      exact hall [] List.nil_prefix
  · rw [hplace]
    exact walk_of_directories (short_of_walk hwalk) hall

/-- A settled path to what is there resolves, if the system takes it at all. -/
theorem Settled.resolves (h : disk.Settled path) (hcurrent : after.current = disk.current)
    (hfiles : disk.KeepsFiles after) (hafter : after.Resolves path)
    (hplace : disk.content? (disk.placeOf path) ≠ none) : disk.Resolves path := by
  obtain ⟨directory, last, happroach, hshort⟩ := resolves_iff.1 hafter
  obtain ⟨-, ⟨start, hstart, hwalk⟩, -⟩ := approach_eq_ok.1 happroach
  have horigin : disk.origin path = start := by
    rw [← origin_of_current hcurrent, origin_of_start hstart]
  have hbefore := SettledFrom.there h hplace _ (List.dropLast_prefix _)
  rw [horigin, ← walk_eq_foldl hwalk] at hbefore
  exact resolves_iff.2 ⟨directory, last, h.approach hcurrent hfiles happroach hbefore, hshort⟩

/-! ### Seen from a directory -/

/-- A relative path that is seen from a directory has its names after that one's. -/
theorem steps_join {dir more : Path} (h : more.isAbsolute = false) :
    steps (dir.join more) = steps dir ++ steps more := by
  simp only [steps_eq_namesOf, Path.join, Path.bytes_ofSystem]
  rw [Path.namesOf_joinList h, List.map_append]

/-- It starts where the directory's path does, and leads through it. -/
theorem leads_join {dir more : Path} (h : more.isAbsolute = false) : Leads dir (dir.join more) where
  isAbsolute := by
    simp only [Path.isAbsolute, Path.join, Path.bytes_ofSystem]
    exact (Path.isAbsoluteList_joinList_of_relative h _).symm
  steps := by
    rw [steps_join h]
    exact List.prefix_append _ _

theorem Leads.origin_eq {next : Path} (h : Leads path next) (disk : Disk) :
    disk.origin next = disk.origin path := by
  simp only [origin, h.isAbsolute]

theorem placeOf_join {dir more : Path} (h : more.isAbsolute = false) (disk : Disk) :
    disk.placeOf (dir.join more) = (steps more).foldl onward (disk.placeOf dir) := by
  rw [placeOf, steps_join h, List.foldl_append, (leads_join h).origin_eq]
  rfl

theorem prefix_append_cases {α : Type} {front before behind : List α}
    (h : front <+: before ++ behind) :
    front <+: before ∨ ∃ back, front = before ++ back ∧ back <+: behind := by
  rcases List.prefix_or_prefix_of_prefix h (List.prefix_append before behind) with
    hbefore | ⟨back, rfl⟩
  · exact .inl hbefore
  · exact .inr ⟨back, rfl, (List.prefix_append_right_inj before).1 h⟩

/-- On its way are the places on the way to the directory, and those on the way from there. -/
theorem onTheWay_join {dir more : Path} (h : more.isAbsolute = false) :
    disk.OnTheWay (dir.join more) location ↔ disk.OnTheWay dir location ∨
      ∃ names, names <+: steps more ∧ location = names.foldl onward (disk.placeOf dir) := by
  unfold OnTheWay placeOf
  rw [steps_join h, (leads_join h).origin_eq]
  constructor
  · rintro ⟨names, hnames, rfl⟩
    rcases prefix_append_cases hnames with hfront | ⟨back, rfl, hback⟩
    · exact .inl ⟨names, hfront, rfl⟩
    · exact .inr ⟨back, hback, List.foldl_append⟩
  · rintro (⟨names, hnames, rfl⟩ | ⟨back, hback, rfl⟩)
    · exact ⟨names, hnames.trans (List.prefix_append _ _), rfl⟩
    · exact ⟨steps dir ++ back, (List.prefix_append_right_inj _).2 hback,
        List.foldl_append.symm⟩

/-- A path stays settled if only names without two dots are put behind it. -/
theorem Settled.join {dir more : Path} (h : disk.Settled dir) (hmore : more.isAbsolute = false)
    (hplain : (".." : SystemText) ∉ steps more) : disk.Settled (dir.join more) := by
  intro front hfront
  rw [(leads_join hmore).origin_eq]
  rw [steps_join hmore] at hfront
  rcases prefix_append_cases hfront with hdir | ⟨back, heq, hback⟩
  · exact h front hdir
  · rcases List.eq_nil_or_concat back with rfl | ⟨others, name, rfl⟩
    · rw [List.append_nil] at heq
      exact h front (heq ▸ List.prefix_rfl)
    · rw [List.concat_eq_append, ← List.append_assoc] at heq
      obtain ⟨-, hname⟩ := List.append_inj' heq rfl
      cases hname
      exact absurd (hback.subset (by simp)) hplain

end BuildConductor.Disk
