import BuildConductor.Disk.Operations

/-! What becomes of a place that an operation is not about.

`Content` is what is at a location, a file with its bytes or a directory. It stays as it is
as long as nothing is put or removed at the location or above it (`content?_put_apart`,
`content?_erase`), and a removal stays below the directory that its path leads to
(`content?_removeIfExists`). A path of names leads to a file as long as that is at its place
(`stat_of_holds`). -/
namespace BuildConductor

/-- The location that a path leads to. -/
def Target.location : Target → Location
  | .dots location _ | .present location _ | .free location => location

/-- What is at a place, without what is below it. -/
inductive Content where
  | file (bytes : ByteArray)
  | directory

/-! ### Trees -/

theorem valueAt?_filter_ne {α : Type} {key other : SystemText} (h : other ≠ key)
    (entries : List (SystemText × α)) :
    valueAt? other (entries.filter fun entry => entry.1 != key) = valueAt? other entries := by
  induction entries with
  | nil => rfl
  | cons entry rest ih =>
    by_cases hkey : entry.1 = key
    · have hother : entry.1 ≠ other := fun heq => h (heq.symm.trans hkey)
      rw [List.filter_cons_of_neg (by simp [hkey]), ih, valueAt?_cons, if_neg hother]
    · rw [List.filter_cons_of_pos (by simp [hkey]), valueAt?_cons, valueAt?_cons, ih]

namespace Node

/-- What is below a directory is found through the entry of its first name. -/
theorem lookup?_cons (node : Node) (name : SystemText) (rest : Location) :
    node.lookup? (name :: rest) = (node.child? name).bind fun child => child.lookup? rest := by
  rw [lookup?]
  cases node.child? name <;> rfl

theorem lookup?_append (node : Node) (location more : Location) :
    node.lookup? (location ++ more) =
      (node.lookup? location).bind fun found => found.lookup? more := by
  induction location generalizing node with
  | nil => rfl
  | cons name rest ih =>
    rw [List.cons_append, lookup?_cons, lookup?_cons]
    cases node.child? name with
    | none => rfl
    | some child => exact ih child

/-- What holds something is a directory. -/
theorem directory_of_lookup? {node found : Node} {name : SystemText} {rest : Location}
    (h : node.lookup? (name :: rest) = some found) : ∃ entries, node = .directory entries := by
  cases node with
  | file bytes => cases h
  | directory entries => exact ⟨entries, rfl⟩

theorem child?_setEntry (name other : SystemText) (new : Node)
    (entries : List (SystemText × Node)) :
    (directory (setEntry name new entries)).child? other =
      if name = other then some new else (directory entries).child? other :=
  valueAt?_setEntry name other new entries

def content : Node → Content
  | .file bytes => .file bytes
  | .directory _ => .directory

/-- What is at a place below a node. -/
def content? (node : Node) (location : Location) : Option Content :=
  (node.lookup? location).map content

theorem content?_cons (node : Node) (name : SystemText) (rest : Location) :
    node.content? (name :: rest) = (node.child? name).bind fun child => child.content? rest := by
  rw [content?, lookup?_cons]
  cases node.child? name <;> rfl

theorem content?_eq_file {node : Node} {location : Location} {bytes : ByteArray} :
    node.content? location = some (.file bytes) ↔ node.lookup? location = some (.file bytes) := by
  unfold content?
  cases node.lookup? location with
  | none => simp
  | some found => cases found <;> simp [content]

theorem content?_eq_directory {node : Node} {location : Location} :
    node.content? location = some .directory ↔
      ∃ entries, node.lookup? location = some (.directory entries) := by
  unfold content?
  cases node.lookup? location with
  | none => simp
  | some found => cases found <;> simp [content]

/-- Nothing is below what is no directory. -/
theorem content?_append_of_ne {node : Node} {location : Location} {name : SystemText}
    {rest : Location} (h : node.content? location ≠ some .directory) :
    node.content? (location ++ name :: rest) = none := by
  rw [content?] at h ⊢
  rw [lookup?_append]
  cases hfound : node.lookup? location with
  | none => rfl
  | some found =>
    cases found with
    | file bytes => rfl
    | directory entries =>
      rw [hfound] at h
      exact absurd rfl h

/-- A new entry changes nothing that is not below it. -/
theorem content?_setEntry {name : SystemText} {new : Node} {entries : List (SystemText × Node)}
    {other : Location}
    (hnew : ∀ more, other = name :: more →
      new.content? more = (directory entries).content? (name :: more)) :
    (directory (setEntry name new entries)).content? other =
      (directory entries).content? other := by
  cases other with
  | nil => rfl
  | cons first more =>
    rw [content?_cons, child?_setEntry]
    split
    · rename_i hname
      rw [← hname]
      exact hnew more (hname ▸ rfl)
    · exact (content?_cons _ _ _).symm

/-- A new child in place of another changes what is below that child only. -/
theorem content?_replace {name : SystemText} {child new : Node} {entries : List (SystemText × Node)}
    {other : Location} (hchild : (directory entries).child? name = some child)
    (hnew : ∀ more, other = name :: more → new.content? more = child.content? more) :
    (directory (setEntry name new entries)).content? other =
      (directory entries).content? other := by
  refine content?_setEntry fun more hother => ?_
  rw [content?_cons, hchild]
  exact hnew more hother

/-- What is put at a place changes nothing that is neither there nor below. -/
theorem content?_put {node new : Node} {location other : Location} (hapart : ¬location <+: other) :
    (node.put new location).content? other = node.content? other := by
  fun_induction put node new location generalizing other with
  | case1 => exact absurd List.nil_prefix hapart
  | case2 => rfl
  | case3 name rest entries child hchild ih =>
    simp only [hchild]
    refine content?_replace hchild ?_
    rintro more rfl
    exact ih fun hprefix => hapart (List.cons_prefix_cons.2 ⟨rfl, hprefix⟩)
  | case4 name entries hnone =>
    simp only [hnone]
    refine content?_setEntry ?_
    rintro more rfl
    exact absurd (List.cons_prefix_cons.2 ⟨rfl, List.nil_prefix⟩) hapart
  | case5 name entries first rest hnone =>
    simp only [hnone]

/-- What is removed at a place changes nothing that is neither there nor below. -/
theorem content?_erase {node : Node} {location other : Location} (hapart : ¬location <+: other) :
    (node.erase location).content? other = node.content? other := by
  fun_induction erase node location generalizing other with
  | case1 => rfl
  | case2 => rfl
  | case3 name entries =>
    cases other with
    | nil => rfl
    | cons first more =>
      have hname : first ≠ name := by
        rintro rfl
        exact hapart (List.cons_prefix_cons.2 ⟨rfl, List.nil_prefix⟩)
      have hchild : (directory (entries.filter fun entry => entry.1 != name)).child? first =
          (directory entries).child? first := valueAt?_filter_ne hname entries
      rw [content?_cons, content?_cons, hchild]
  | case4 => rfl
  | case5 name next rest entries child hchild ih =>
    simp only [hchild]
    refine content?_replace hchild ?_
    rintro more rfl
    exact ih fun hprefix => hapart (List.cons_prefix_cons.2 ⟨rfl, hprefix⟩)
  | case6 name next rest entries hnone =>
    simp only [hnone]

theorem put_directory (entries : List (SystemText × Node)) (new : Node) (name : SystemText)
    (rest : Location) : ∃ changed, (directory entries).put new (name :: rest) = .directory changed := by
  rw [put.eq_def]
  simp only
  split <;> exact ⟨_, rfl⟩

theorem erase_directory (entries : List (SystemText × Node)) (location : Location) :
    ∃ changed, (directory entries).erase location = .directory changed := by
  unfold erase
  split
  · exact ⟨_, rfl⟩
  · exact ⟨_, rfl⟩
  · simp only
    split <;> exact ⟨_, rfl⟩

end Node

namespace Disk
variable {disk : Disk} {location other : Location} {bytes : ByteArray}

/-! ### Locations -/

/-- Whether a file with these bytes is at a location. -/
def Holds (disk : Disk) (location : Location) (bytes : ByteArray) : Prop :=
  disk.lookup? location = some (.file bytes)

theorem lookup?_append (disk : Disk) (location more : Location) :
    disk.lookup? (location ++ more) =
      (disk.lookup? location).bind fun found => found.lookup? more :=
  Node.lookup?_append _ location more

/-- What holds something is a directory. -/
theorem exists_directory {found : Node} {name : SystemText} {rest : Location}
    (h : disk.lookup? (location ++ name :: rest) = some found) :
    ∃ entries, disk.lookup? location = some (.directory entries) := by
  rw [lookup?_append] at h
  obtain ⟨node, hnode, hfound⟩ := Option.bind_eq_some_iff.1 h
  obtain ⟨entries, rfl⟩ := Node.directory_of_lookup? hfound
  exact ⟨entries, hnode⟩

/-- What is at a place. -/
def content? (disk : Disk) (location : Location) : Option Content :=
  (Node.directory disk.root).content? location

theorem content?_eq_none : disk.content? location = none ↔ disk.lookup? location = none :=
  Option.map_eq_none_iff

theorem content?_eq_directory :
    disk.content? location = some .directory ↔
      ∃ entries, disk.lookup? location = some (.directory entries) :=
  Node.content?_eq_directory

theorem content?_eq_file :
    disk.content? location = some (.file bytes) ↔ disk.Holds location bytes :=
  Node.content?_eq_file

theorem content?_put_apart (hapart : ¬location <+: other) (new : Node) :
    (disk.put location new).content? other = disk.content? other := by
  cases location with
  | nil => exact absurd List.nil_prefix hapart
  | cons name rest =>
    obtain ⟨changed, hchanged⟩ := Node.put_directory disk.root new name rest
    have hput : ((Node.directory disk.root).put new (name :: rest)).content? other =
        (Node.directory disk.root).content? other :=
      Node.content?_put hapart
    rw [hchanged] at hput
    rw [content?, Disk.put, hchanged]
    exact hput

theorem content?_erase (hapart : ¬location <+: other) :
    (disk.erase location).content? other = disk.content? other := by
  obtain ⟨changed, hchanged⟩ := Node.erase_directory disk.root location
  have herase : ((Node.directory disk.root).erase location).content? other =
      (Node.directory disk.root).content? other :=
    Node.content?_erase hapart
  rw [hchanged] at herase
  rw [content?, Disk.erase, hchanged]
  exact herase

theorem content?_clear (hapart : ¬location <+: other) :
    (disk.clear location).content? other = disk.content? other := by
  cases location with
  | nil => exact absurd List.nil_prefix hapart
  | cons name rest => exact content?_put_apart hapart (.directory [])

/-! ### Names -/

theorem entry?_eq_ok {directory : Location} {name : SystemText} {found : Option Node} :
    disk.entry? directory name = .ok found ↔
      ¬longestName < name.bytes.length ∧ disk.lookup? (directory ++ [name]) = found := by
  unfold entry?
  by_cases hlong : longestName < name.bytes.length <;> simp [hlong]

/-- What is there is found under the last name of its path, in the directory that the
other names lead to. -/
structure Finds (disk : Disk) (path : Path) (directory : Location) (last : SystemText) : Prop where
  approach : disk.approach path = .ok (directory, some last)
  notDots : last ≠ "." ∧ last ≠ ".."
  short : ¬longestName < last.bytes.length

/-- What a location is to a path that leads to it. -/
def targetAt (location : Location) : Option Node → Target
  | some node => .present location node
  | none => .free location

theorem Finds.resolve {path : Path} {directory : Location} {last : SystemText} {found : Option Node}
    (h : disk.Finds path directory last) (hfound : disk.lookup? (directory ++ [last]) = found) :
    disk.resolve path = .ok (targetAt (directory ++ [last]) found) := by
  simp only [Disk.resolve, h.approach, target, h.notDots.1, h.notDots.2, entry?, h.short, hfound,
    if_false]
  cases found <;> rfl

/-- A path that does not end in dots leads to the place of its last name. -/
theorem finds_of_resolve {path : Path} {target : Target} (h : disk.resolve path = .ok target)
    (hdots : ∀ location dots, target ≠ .dots location dots) :
    ∃ directory last, disk.Finds path directory last ∧
      target = targetAt (directory ++ [last]) (disk.lookup? (directory ++ [last])) := by
  unfold Disk.resolve at h
  split at h
  · cases h
  · cases h
    exact absurd rfl (hdots _ _)
  rename_i directory last happroach
  unfold Disk.target at h
  split at h
  · cases h
    exact absurd rfl (hdots _ _)
  rename_i hsingle
  split at h
  · cases h
    exact absurd rfl (hdots _ _)
  rename_i hdouble
  split at h
  · cases h
  all_goals
    rename_i hentry
    obtain ⟨hshort, hlookup⟩ := entry?_eq_ok.1 hentry
    cases h
    exact ⟨directory, last, ⟨happroach, ⟨hsingle, hdouble⟩, hshort⟩, by rw [hlookup]; rfl⟩

theorem exists_finds {path : Path} {node : Node}
    (h : disk.resolve path = .ok (.present location node)) :
    ∃ directory last, location = directory ++ [last] ∧ disk.Finds path directory last ∧
      disk.lookup? location = some node := by
  obtain ⟨directory, last, hfinds, htarget⟩ := finds_of_resolve h fun _ _ => nofun
  cases hlookup : disk.lookup? (directory ++ [last]) <;> rw [hlookup] at htarget <;> cases htarget
  exact ⟨directory, last, rfl, hfinds, hlookup⟩

/-- A name that is free is the last of its path, in a directory. -/
theorem exists_free {path : Path} (h : disk.resolve path = .ok (.free location)) :
    ∃ directory last, location = directory ++ [last] ∧ disk.Finds path directory last ∧
      disk.lookup? location = none := by
  obtain ⟨directory, last, hfinds, htarget⟩ := finds_of_resolve h fun _ _ => nofun
  cases hlookup : disk.lookup? (directory ++ [last]) <;> rw [hlookup] at htarget <;> cases htarget
  exact ⟨directory, last, rfl, hfinds, hlookup⟩

/-! ### Removal -/

theorem content?_removeTree {path : Path}
    (hapart : ∀ target, disk.resolve path = .ok target → ¬target.location <+: other) :
    (disk.removeTree path).2.content? other = disk.content? other := by
  unfold Disk.removeTree
  split
  · rfl
  · rfl
  · rfl
  · rename_i location _ hresolve
    have hbelow : ¬location <+: other := hapart _ hresolve
    simp only
    split
    · exact content?_clear hbelow
    · exact content?_erase hbelow
  · rename_i location _ hresolve
    have hbelow : ¬location <+: other := hapart _ hresolve
    simp only
    split <;> exact content?_clear hbelow

theorem current_removeTree (disk : Disk) (path : Path) :
    (disk.removeTree path).2.current = disk.current := by
  have hclear (location : Location) : (disk.clear location).current = disk.current := by
    cases location <;> rfl
  unfold Disk.removeTree
  split
  · rfl
  · rfl
  · rfl
  · simp only
    split
    · exact hclear _
    · rfl
  · simp only
    split <;> exact hclear _

/-- What is removed if it is there is left to the removal of a tree, or not touched. -/
theorem removeIfExists_cases (disk : Disk) (path : Path) :
    (disk.removeIfExists path).2 = disk ∨
      (disk.removeIfExists path).2 = (disk.removeTree path).2 := by
  unfold Disk.removeIfExists
  split
  · split
    · rename_i heq
      exact .inr (by rw [heq])
    · rename_i heq
      exact .inr (by rw [heq])
  · exact .inl rfl

theorem content?_removeIfExists {path : Path}
    (hapart : ∀ target, disk.resolve path = .ok target → ¬target.location <+: other) :
    (disk.removeIfExists path).2.content? other = disk.content? other := by
  rcases disk.removeIfExists_cases path with heq | heq
  · rw [heq]
  · rw [heq]
    exact content?_removeTree hapart

theorem current_removeIfExists (disk : Disk) (path : Path) :
    (disk.removeIfExists path).2.current = disk.current := by
  rcases disk.removeIfExists_cases path with heq | heq
  · rw [heq]
  · rw [heq]
    exact disk.current_removeTree path

/-! ### Paths -/

theorem doubleDot_ne_dot : (".." : SystemText) ≠ "." := by
  decide

/-- Where a name leads to from a directory. -/
def onward (start : Location) (name : SystemText) : Location :=
  if name = "." then start else if name = ".." then start.dropLast else start ++ [name]

/-- Whether a name leads from a directory to another: dots do always. -/
def Enters (disk : Disk) (start : Location) (name : SystemText) : Prop :=
  name ≠ "." → name ≠ ".." → ¬longestName < name.bytes.length ∧
    ∃ entries, disk.lookup? (start ++ [name]) = some (.directory entries)

/-- A walk goes from name to name. -/
theorem walk_cons_eq_ok {start last : Location} {name : SystemText} {rest : List SystemText} :
    disk.walk start (name :: rest) = .ok last ↔
      disk.Enters start name ∧ disk.walk (onward start name) rest = .ok last := by
  rw [walk]
  by_cases hsingle : name = "."
  · simp [Enters, onward, hsingle]
  by_cases hdouble : name = ".."
  · simp [Enters, onward, hdouble, doubleDot_ne_dot]
  simp only [Enters, onward, hsingle, hdouble, if_false, ne_eq, not_false_eq_true, true_implies]
  constructor
  · intro h
    split at h
    · cases h
    · cases h
    · cases h
    rename_i entries hentry
    obtain ⟨hshort, hlookup⟩ := entry?_eq_ok.1 hentry
    exact ⟨⟨hshort, entries, hlookup⟩, h⟩
  · rintro ⟨⟨hshort, entries, hlookup⟩, h⟩
    simp only [entry?_eq_ok.2 ⟨hshort, hlookup⟩]
    exact h

theorem Enters.directory {start : Location} {name : SystemText} (h : disk.Enters start name)
    (hstart : ∃ entries, disk.lookup? start = some (.directory entries)) :
    ∃ entries, disk.lookup? (onward start name) = some (.directory entries) := by
  unfold onward
  split
  · exact hstart
  rename_i hsingle
  split
  · rcases List.eq_nil_or_concat start with rfl | ⟨front, name, rfl⟩
    · exact hstart
    · obtain ⟨entries, hentries⟩ := hstart
      rw [List.concat_eq_append] at hentries ⊢
      rw [List.dropLast_concat]
      exact exists_directory hentries
  · rename_i hdouble
    exact (h hsingle hdouble).2

/-- Every directory that names lead to is one. -/
theorem directory_of_walk {names : List SystemText} {start last : Location}
    (hstart : ∃ entries, disk.lookup? start = some (.directory entries))
    (h : disk.walk start names = .ok last) :
    ∃ entries, disk.lookup? last = some (.directory entries) := by
  induction names generalizing start with
  | nil =>
    cases h
    exact hstart
  | cons name rest ih =>
    obtain ⟨henters, hrest⟩ := walk_cons_eq_ok.1 h
    exact ih (henters.directory hstart) hrest

/-- A path starts at the root, or at the current directory as long as it is one. -/
theorem start_eq_ok {path : Path} {start : Location} :
    disk.start path = .ok start ↔
      path.isAbsolute = true ∧ start = [] ∨
        path.isAbsolute = false ∧ start = disk.current ∧
          ∃ entries, disk.lookup? disk.current = some (.directory entries) := by
  unfold Disk.start
  cases path.isAbsolute with
  | true => simp [eq_comm]
  | false =>
    cases disk.lookup? disk.current with
    | none => simp
    | some node => cases node <;> simp [eq_comm]

/-- A path that the system takes leads through all of its names but the last. -/
theorem approach_eq_ok {path : Path} {directory : Location} {last : Option SystemText} :
    disk.approach path = .ok (directory, last) ↔
      (path.bytes.contains 0 = false ∧ path.bytes.isEmpty = false ∧
        ¬longestPath < path.bytes.length) ∧
      (∃ start, disk.start path = .ok start ∧
        disk.walk start (steps path).dropLast = .ok directory) ∧
      (steps path).getLast? = last := by
  unfold approach
  constructor
  · intro h
    split at h
    · cases h
    rename_i hnul
    split at h
    · cases h
    rename_i hempty
    split at h
    · cases h
    rename_i hlong
    split at h
    · cases h
    rename_i start hstart
    split at h
    · cases h
    rename_i hwalk
    cases h
    exact ⟨⟨eq_false_of_ne_true hnul, eq_false_of_ne_true hempty, hlong⟩, ⟨start, hstart, hwalk⟩,
      rfl⟩
  · rintro ⟨⟨hnul, hempty, hlong⟩, ⟨start, hstart, hwalk⟩, rfl⟩
    simp only [hnul, hempty, hlong, hstart, hwalk, Bool.false_eq_true, if_false]

theorem directory_of_approach {path : Path} {directory : Location} {last : Option SystemText}
    (h : disk.approach path = .ok (directory, last)) :
    ∃ entries, disk.lookup? directory = some (.directory entries) := by
  obtain ⟨-, ⟨start, hstart, hwalk⟩, -⟩ := approach_eq_ok.1 h
  refine directory_of_walk ?_ hwalk
  rcases start_eq_ok.1 hstart with ⟨-, rfl⟩ | ⟨-, rfl, hcurrent⟩
  · exact ⟨disk.root, rfl⟩
  · exact hcurrent

theorem directory_of_resolve_dots {path : Path} {location : Location} {dots : Dots}
    (h : disk.resolve path = .ok (.dots location dots)) :
    ∃ entries, disk.lookup? location = some (.directory entries) := by
  unfold resolve at h
  split at h
  · cases h
  · rename_i happroach
    cases h
    exact directory_of_approach happroach
  · rename_i directory last happroach
    have hdirectory := directory_of_approach happroach
    unfold target at h
    split at h
    · cases h
      exact hdirectory
    split at h
    · cases h
      have hwalk : disk.walk directory [".."] = .ok _ := rfl
      exact directory_of_walk hdirectory hwalk
    split at h <;> cases h

/-- A path of a file ends in its name, not in dots or a slash. -/
theorem resolve_of_stat {path : Path} (h : disk.stat path = .ok (location, .file bytes)) :
    disk.resolve path = .ok (.present location (.file bytes)) ∧ endsInSlash path = false := by
  unfold Disk.stat at h
  split at h
  · cases h
  · cases h
  · rename_i hdots
    split at h
    · rename_i hlookup
      cases h
      obtain ⟨entries, hdirectory⟩ := directory_of_resolve_dots hdots
      cases hlookup.symm.trans hdirectory
    · cases h
  · rename_i hresolve
    split at h
    · cases h
    · rename_i hslash
      cases h
      exact ⟨hresolve, by simpa [Node.isDirectory] using hslash⟩

theorem Holds.of_stat {path : Path} (h : disk.stat path = .ok (location, .file bytes)) :
    disk.Holds location bytes := by
  obtain ⟨_, _, -, -, hlookup⟩ := exists_finds (resolve_of_stat h).1
  exact hlookup

/-- Names that go down only lead to the same directory on every disk that has something
below it. -/
theorem walk_of_lookup? {names : List SystemText} {start last : Location}
    (hplain : (".." : SystemText) ∉ names)
    (h : disk.walk start names = .ok last) :
    start <+: last ∧ ∀ (after : Disk) (name : SystemText) (rest : Location) (found : Node),
      after.lookup? (last ++ name :: rest) = some found → after.walk start names = .ok last := by
  induction names generalizing start with
  | nil =>
    cases h
    exact ⟨List.prefix_rfl, fun _ _ _ _ _ => rfl⟩
  | cons first others ih =>
    obtain ⟨hdouble, hothers⟩ := not_or.1 fun h => hplain (List.mem_cons.2 h)
    obtain ⟨henters, hrest⟩ := walk_cons_eq_ok.1 h
    obtain ⟨⟨more, hlast⟩, hwalk⟩ := ih hothers hrest
    have hstart : start <+: onward start first := by
      simp only [onward, Ne.symm hdouble, if_false]
      split
      · exact List.prefix_rfl
      · exact List.prefix_append _ _
    refine ⟨hstart.trans ⟨more, hlast⟩, fun after name rest found hfound => ?_⟩
    refine walk_cons_eq_ok.2 ⟨fun hsingle hup => ⟨(henters hsingle hup).1, ?_⟩,
      hwalk after name rest found hfound⟩
    have honward : onward start first = start ++ [first] := by simp [onward, hsingle, hup]
    obtain ⟨next, behind, hbehind⟩ : ∃ next behind, more ++ name :: rest = next :: behind := by
      cases more with
      | nil => exact ⟨_, _, rfl⟩
      | cons next more => exact ⟨_, _, rfl⟩
    rw [← hlast, honward, List.append_assoc, hbehind] at hfound
    exact exists_directory hfound

/-- An absolute path that goes down only names the same file as long as that is at its
location. -/
theorem stat_of_holds {after : Disk} {path : Path} (habsolute : path.isAbsolute = true)
    (hplain : (".." : SystemText) ∉ steps path) (h : disk.stat path = .ok (location, .file bytes))
    (hafter : after.Holds location bytes) : after.stat path = .ok (location, .file bytes) := by
  obtain ⟨hresolve, hslash⟩ := resolve_of_stat h
  obtain ⟨directory, last, rfl, hfinds, -⟩ := exists_finds hresolve
  have hroot (disk : Disk) : disk.start path = .ok [] := if_pos habsolute
  have hthere : after.Finds path directory last := by
    obtain ⟨htaken, ⟨start, hstart, hwalk⟩, hlast⟩ := approach_eq_ok.1 hfinds.approach
    cases (hroot disk).symm.trans hstart
    have hdown : (".." : SystemText) ∉ (steps path).dropLast :=
      fun hmem => hplain ((List.dropLast_sublist _).subset hmem)
    have hwalk := (walk_of_lookup? hdown hwalk).2 after last [] _ hafter
    exact ⟨approach_eq_ok.2 ⟨htaken, ⟨[], hroot after, hwalk⟩, hlast⟩, hfinds.notDots, hfinds.short⟩
  simp only [Disk.stat, hthere.resolve hafter, targetAt, hslash, Bool.false_and,
    Bool.false_eq_true, if_false]

theorem readFile_of_holds {after : Disk} {path : Path} (habsolute : path.isAbsolute = true)
    (hplain : (".." : SystemText) ∉ steps path) (h : disk.stat path = .ok (location, .file bytes))
    (hafter : after.Holds location bytes) : after.readFile path = .ok bytes := by
  simp only [Disk.readFile, stat_of_holds habsolute hplain h hafter]

end Disk

end BuildConductor
