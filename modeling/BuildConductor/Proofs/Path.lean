import BuildConductor.Proofs.Text.Utf8

/-! The path of a directory.

What is left of a path for the directory around it is what stands before a slash, unless that is
the root or nothing (`parentList?_eq_some`). So its names are the first names of the path, and
it starts where the path does. The other way round, a relative path that is seen from a
directory has its names after those of the directory (`namesOf_joinList`).

Whether the bytes of a path are those of a text decides whether what is shown of it is the path.
Cutting a text at its slashes, and putting texts together with slashes, gives texts again, so a
path that is made absolute stays one (`IsText.absolute`). -/
namespace BuildConductor.Path

theorem splitSlashes_ne_nil (cs : List UInt8) : splitSlashes cs ≠ [] := by
  cases cs with
  | nil => exact List.cons_ne_nil _ _
  | cons c rest =>
    rw [splitSlashes]
    split
    · exact List.cons_ne_nil _ _
    · split <;> exact List.cons_ne_nil _ _

/-- A slash parts the pieces before it from those behind it. -/
theorem splitSlashes_append (before behind : List UInt8) :
    splitSlashes (before ++ slash :: behind) = splitSlashes before ++ splitSlashes behind := by
  induction before with
  | nil => rfl
  | cons c rest ih =>
    rw [List.cons_append, splitSlashes, splitSlashes, ih]
    split
    · rfl
    · obtain ⟨piece, more, hpieces⟩ := List.exists_cons_of_ne_nil (splitSlashes_ne_nil rest)
      rw [hpieces]
      rfl

theorem dropTrailing_slash (rest : List UInt8) :
    dropTrailing (slash :: rest) = dropTrailing rest :=
  rfl

/-- What is dropped from the end of a path is all that follows a slash, and the slash. -/
theorem dropTrailing_eq (cs : List UInt8) :
    dropTrailing cs = cs ∨ ∃ dropped, cs = dropped ++ slash :: dropTrailing cs := by
  fun_induction dropTrailing cs with
  | case1 => exact .inl rfl
  | case2 => exact .inl rfl
  | case3 rest ih =>
    refine .inr ?_
    rcases ih with heq | ⟨dropped, heq⟩
    · exact ⟨[], by rw [heq]; rfl⟩
    · exact ⟨slash :: dropped, congrArg _ heq⟩
  | case4 rest ih =>
    refine .inr ?_
    rcases ih with heq | ⟨dropped, heq⟩
    · exact ⟨[dot], by rw [heq]; rfl⟩
    · exact ⟨dot :: slash :: dropped, congrArg (fun cs => dot :: slash :: cs) heq⟩
  | case5 => exact .inl rfl

/-- Where a path ends in a name, what is before that ends in a slash. -/
theorem dropTrailing_of_slash {cs : List UInt8} (h : cs.head? = some slash) :
    ∃ dropped, cs = dropped ++ slash :: dropTrailing cs := by
  obtain ⟨rest, rfl⟩ := List.head?_eq_some_iff.1 h
  rcases dropTrailing_eq rest with heq | ⟨dropped, heq⟩
  · exact ⟨[], by rw [dropTrailing_slash, heq]; rfl⟩
  · exact ⟨slash :: dropped, by rw [dropTrailing_slash]; exact congrArg _ heq⟩

/-- The path of a directory is nothing, the root, or what stands before a slash. -/
theorem parentList?_eq_some {cs parent : List UInt8} (h : parentList? cs = some parent) :
    parent = [] ∧ isAbsoluteList cs = false ∨ parent = [slash] ∧ isAbsoluteList cs = true ∨
      parent ≠ [] ∧ ∃ rest, cs = parent ++ slash :: rest := by
  unfold parentList? at h
  simp only at h
  split at h
  · cases h
  generalize hbody : dropTrailing cs.reverse = body at h
  generalize hbefore : (body.dropWhile fun c => c != slash) = before at h
  split at h
  · rename_i hroot
    cases h
    exact .inr (.inl ⟨rfl, (Bool.and_eq_true_iff.1 hroot).2⟩)
  rename_i hroot
  cases h
  by_cases hempty : dropTrailing before = []
  · rw [hempty] at hroot ⊢
    exact .inl ⟨rfl, by simpa using hroot⟩
  refine .inr (.inr ⟨by simpa using hempty, ?_⟩)
  have hhead : before.head? = some slash := by
    cases before with
    | nil => exact absurd rfl hempty
    | cons c rest =>
      have hc := List.head?_dropWhile_not (fun c => c != slash) body
      rw [hbefore] at hc
      simpa using hc
  obtain ⟨dropped, hdropped⟩ := dropTrailing_of_slash hhead
  obtain ⟨name, hname⟩ : ∃ name, body = name ++ before :=
    ⟨body.takeWhile fun c => c != slash, by rw [← hbefore, List.takeWhile_append_dropWhile]⟩
  obtain ⟨trailing, htrailing⟩ : ∃ trailing, cs.reverse = trailing ++ body := by
    rcases dropTrailing_eq cs.reverse with heq | ⟨trailing, heq⟩
    · exact ⟨[], by rw [← hbody, heq]; rfl⟩
    · exact ⟨trailing ++ [slash], by rw [heq, hbody]; simp⟩
  refine ⟨(trailing ++ name ++ dropped).reverse, ?_⟩
  generalize dropTrailing before = left at hdropped
  rw [← List.reverse_inj, htrailing, hname, hdropped]
  simp

/-- A directory's path is absolute if the path is. -/
theorem isAbsoluteList_parentList? {cs parent : List UInt8} (h : parentList? cs = some parent) :
    isAbsoluteList parent = isAbsoluteList cs := by
  rcases parentList?_eq_some h with ⟨rfl, hcs⟩ | ⟨rfl, hcs⟩ | ⟨hparent, rest, rfl⟩
  · exact hcs.symm
  · exact hcs.symm
  · obtain ⟨c, more, rfl⟩ := List.exists_cons_of_ne_nil hparent
    rfl

/-- A directory's path is what a path begins with. -/
theorem parentList?_prefix {cs parent : List UInt8} (h : parentList? cs = some parent) :
    parent <+: cs := by
  rcases parentList?_eq_some h with ⟨rfl, -⟩ | ⟨rfl, hcs⟩ | ⟨-, rest, rfl⟩
  · exact List.nil_prefix
  · obtain ⟨rest, rfl⟩ := List.head?_eq_some_iff.1 (beq_iff_eq.1 hcs)
    exact List.prefix_append [slash] rest
  · exact List.prefix_append _ _

theorem parent?_prefix {path parent : Path} (h : path.parent? = some parent) :
    parent.bytes <+: path.bytes := by
  obtain ⟨cs, hcs, rfl⟩ := Option.map_eq_some_iff.1 h
  exact parentList?_prefix hcs

/-! ### Joining -/

/-- The pieces between slashes that are names, dots included. -/
def namesOf (cs : List UInt8) : List (List UInt8) :=
  (splitSlashes cs).filter fun name => !name.isEmpty

theorem namesOf_append (before behind : List UInt8) :
    namesOf (before ++ slash :: behind) = namesOf before ++ namesOf behind := by
  rw [namesOf, splitSlashes_append, List.filter_append]
  rfl

/-- The names of a relative path come after those of the directory that it is seen from. -/
theorem namesOf_joinList {more : List UInt8} (h : isAbsoluteList more = false) (base : List UInt8) :
    namesOf (joinList base more) = namesOf base ++ namesOf more := by
  unfold joinList
  rw [if_neg (by simp [h])]
  split
  · rename_i hend
    rcases Bool.or_eq_true_iff.1 hend with hempty | hslash
    · rw [List.isEmpty_iff.1 hempty]
      rfl
    · -- The slash that parts the two is the last of the directory's path.
      obtain ⟨front, rfl⟩ := List.getLast?_eq_some_iff.1 (beq_iff_eq.1 hslash)
      have hfront : namesOf (front ++ [slash]) = namesOf front := by
        rw [namesOf_append]
        exact List.append_nil _
      rw [hfront, List.append_assoc, List.singleton_append, namesOf_append]
  · exact namesOf_append base more

/-- A relative path that is seen from a directory starts where the directory's does. -/
theorem isAbsoluteList_joinList_of_relative {more : List UInt8} (h : isAbsoluteList more = false)
    (base : List UInt8) : isAbsoluteList (joinList base more) = isAbsoluteList base := by
  unfold joinList
  rw [if_neg (by simp [h])]
  cases base with
  | nil => exact h
  | cons c rest => split <;> rfl

/-! ### The last name -/

/-- A text without a slash behind another becomes part of its last piece. -/
theorem splitSlashes_append_of_not_mem {more : List UInt8} (h : slash ∉ more) (cs : List UInt8) :
    ∃ front piece, splitSlashes (cs ++ more) = front ++ [piece ++ more] := by
  have hpiece : splitSlashes more = [more] := by
    induction more with
    | nil => rfl
    | cons c rest ih =>
      obtain ⟨hc, hrest⟩ := not_or.1 fun hmem => h (List.mem_cons.2 hmem)
      rw [splitSlashes, if_neg (Ne.symm hc), ih hrest]
  induction cs with
  | nil => exact ⟨[], [], hpiece⟩
  | cons c rest ih =>
    obtain ⟨front, piece, hsplit⟩ := ih
    rw [List.cons_append, splitSlashes, hsplit]
    split
    · exact ⟨[] :: front, piece, rfl⟩
    · cases front with
      | nil => exact ⟨[], c :: piece, rfl⟩
      | cons first others => exact ⟨(c :: first) :: others, piece, rfl⟩

/-- The last name of a path ends as the path does, if that is not in a slash. -/
theorem getLast?_namesOf_append {more : List UInt8} (h : slash ∉ more) (hne : more ≠ [])
    (cs : List UInt8) : ∃ piece, (namesOf (cs ++ more)).getLast? = some (piece ++ more) := by
  obtain ⟨front, piece, hsplit⟩ := splitSlashes_append_of_not_mem h cs
  refine ⟨piece, ?_⟩
  rw [namesOf, hsplit, List.filter_append, List.filter_cons_of_pos (by simp [hne]),
    List.filter_nil, List.getLast?_concat]

/-! ### Paths that are texts -/

@[simp]
theorem text_mk (text : String) : (mk text).text = text :=
  SystemText.text_ofText text

/-- Whether a path is one that a text says. -/
def IsText (path : Path) : Prop :=
  ∃ text, path = mk text

/-- What is shown of a path says the path exactly if that is a text. -/
theorem mk_text_iff {path : Path} : mk path.text = path ↔ path.IsText := by
  constructor
  · exact fun h => ⟨path.text, h.symm⟩
  · rintro ⟨text, rfl⟩
    rw [text_mk]

/-- Whether bytes are those of a text. -/
def IsTextList (cs : List UInt8) : Prop :=
  ∃ chars, cs = Text.utf8Bytes chars

theorem isText_iff {path : Path} : path.IsText ↔ IsTextList path.bytes := by
  constructor
  · rintro ⟨text, rfl⟩
    exact ⟨text.toList, rfl⟩
  · rintro ⟨chars, hchars⟩
    refine ⟨String.ofList chars, ?_⟩
    rw [mk, SystemText.ofText, String.toList_ofList, ← hchars]
    rfl

theorem IsTextList.append {cs more : List UInt8} (h : IsTextList cs) (hmore : IsTextList more) :
    IsTextList (cs ++ more) := by
  obtain ⟨chars, rfl⟩ := h
  obtain ⟨others, rfl⟩ := hmore
  exact ⟨chars ++ others, (Text.utf8Bytes_append chars others).symm⟩

theorem isTextList_slash : IsTextList [slash] :=
  ⟨['/'], by decide⟩

theorem IsTextList.joinList {base more : List UInt8} (h : IsTextList base)
    (hmore : IsTextList more) : IsTextList (joinList base more) := by
  unfold Path.joinList
  split
  · exact hmore
  split
  · exact h.append hmore
  · exact h.append (isTextList_slash.append hmore)

/-- What has no slash is put before the first piece. -/
theorem splitSlashes_append_left {front cs piece : List UInt8} {more : List (List UInt8)}
    (h : slash ∉ front) (hsplit : splitSlashes cs = piece :: more) :
    splitSlashes (front ++ cs) = (front ++ piece) :: more := by
  induction front with
  | nil => exact hsplit
  | cons c rest ih =>
    obtain ⟨hc, hrest⟩ := not_or.1 fun hmem => h (List.mem_cons.2 hmem)
    rw [List.cons_append, splitSlashes, if_neg (Ne.symm hc), ih hrest]
    rfl

/-- The pieces of a text between slashes are texts. -/
theorem isTextList_of_mem_splitSlashes (chars : List Char) :
    ∀ piece ∈ splitSlashes (Text.utf8Bytes chars), IsTextList piece := by
  induction chars with
  | nil => exact List.forall_mem_singleton.2 ⟨[], rfl⟩
  | cons c rest ih =>
    have hbytes : Text.utf8Bytes (c :: rest) = String.utf8EncodeChar c ++ Text.utf8Bytes rest :=
      List.flatMap_cons
    rw [hbytes]
    by_cases hslash : c = '/'
    · rw [hslash]
      exact List.forall_mem_cons.2 ⟨⟨[], rfl⟩, ih⟩
    obtain ⟨piece, more, hsplit⟩ :=
      List.exists_cons_of_ne_nil (splitSlashes_ne_nil (Text.utf8Bytes rest))
    have hfree : slash ∉ String.utf8EncodeChar c :=
      Text.ascii_not_mem_encodeChar (by decide) hslash
    rw [hsplit] at ih
    rw [splitSlashes_append_left hfree hsplit]
    obtain ⟨hpiece, hmore⟩ := List.forall_mem_cons.1 ih
    have hc : IsTextList (String.utf8EncodeChar c) := ⟨[c], (List.flatMap_singleton _ _).symm⟩
    exact List.forall_mem_cons.2 ⟨hc.append hpiece, hmore⟩

theorem IsTextList.foldl_joinList {base : List UInt8} {names : List (List UInt8)}
    (h : IsTextList base) (hnames : ∀ name ∈ names, IsTextList name) :
    IsTextList (names.foldl Path.joinList base) := by
  induction names generalizing base with
  | nil => exact h
  | cons name rest ih =>
    obtain ⟨hname, hrest⟩ := List.forall_mem_cons.1 hnames
    exact ih (h.joinList hname) hrest

theorem isTextList_absoluteStart (cs : List UInt8) : IsTextList (absoluteStart cs) := by
  unfold absoluteStart
  split
  · exact isTextList_slash
  · exact isTextList_slash.append isTextList_slash
  · exact isTextList_slash

theorem IsTextList.absoluteList {current cs : List UInt8} (hcurrent : IsTextList current)
    (h : IsTextList cs) : IsTextList (absoluteList current cs) := by
  obtain ⟨chars, rfl⟩ := h
  have hstart : IsTextList (if isAbsoluteList (Text.utf8Bytes chars) then
      absoluteStart (Text.utf8Bytes chars) else current) := by
    split
    · exact isTextList_absoluteStart _
    · exact hcurrent
  have hpath := hstart.foldl_joinList fun name (hname : name ∈ names (Text.utf8Bytes chars)) =>
    isTextList_of_mem_splitSlashes chars name (List.mem_filter.1 hname).1
  unfold Path.absoluteList
  simp only
  split
  · exact hpath.joinList ⟨[], rfl⟩
  · exact hpath

/-- A text that is seen from a text is one. -/
theorem IsText.join {base more : Path} (h : base.IsText) (hmore : more.IsText) :
    (base.join more).IsText := by
  rw [isText_iff] at h hmore ⊢
  exact h.joinList hmore

/-- A text that is made absolute where the current directory is a text stays one. -/
theorem IsText.absolute {current path result : Path} (hcurrent : current.IsText)
    (h : path.IsText) (hresult : current.absolute path = .ok result) : result.IsText := by
  unfold Path.absolute at hresult
  split at hresult
  · cases hresult
  cases hresult
  rw [isText_iff] at h hcurrent ⊢
  exact hcurrent.absoluteList h

end BuildConductor.Path
