import BuildConductor.Proofs.Text.Lines
import BuildConductor.Proofs.Text.Words
import BuildConductor.Rehearsal.Project

/-! Reading the status of submodules.

`Tells` says what a line has to be for a submodule to be read of it: a mark, and words of
which the second is the path. `ofStatus_append` reads a text part by part, and
`ofStatus_listing` reads back what was listed, whatever stands behind the paths and between
the entries. -/
namespace BuildConductor

namespace SubmoduleState

/-- The mark of a state. -/
def mark : SubmoduleState → Char
  | .current => ' '
  | .uninitialized => '-'
  | .modified => '+'
  | .conflict => 'U'

def marks : List Char :=
  [' ', '-', '+', 'U']

theorem ofMark?_eq_some_iff {c : Char} {state : SubmoduleState} :
    ofMark? c = some state ↔ c = state.mark := by
  constructor
  · intro h
    unfold ofMark? at h
    split_ifs at h with hcurrent huninitialized hmodified hconflict
    · exact Option.some.inj h ▸ hcurrent
    · exact Option.some.inj h ▸ huninitialized
    · exact Option.some.inj h ▸ hmodified
    · exact Option.some.inj h ▸ hconflict
  · rintro rfl
    cases state <;> rfl

theorem mem_marks_iff {c : Char} : c ∈ marks ↔ ∃ state : SubmoduleState, c = state.mark := by
  constructor
  · intro h
    simp only [marks, List.mem_cons, List.not_mem_nil, or_false] at h
    rcases h with h | h | h | h
    · exact ⟨.current, h⟩
    · exact ⟨.uninitialized, h⟩
    · exact ⟨.modified, h⟩
    · exact ⟨.conflict, h⟩
  · rintro ⟨state, rfl⟩
    cases state <;> decide

theorem ofMark?_eq_none {c : Char} (h : c ∉ marks) : ofMark? c = none := by
  cases hstate : ofMark? c with
  | none => rfl
  | some state => exact absurd (mem_marks_iff.2 ⟨state, ofMark?_eq_some_iff.1 hstate⟩) h

theorem mark_eq_iff {state : SubmoduleState} : state.mark = '-' ↔ state = .uninitialized := by
  cases state <;> decide

end SubmoduleState

namespace Submodule

/-! ### One line -/

/-- Whether a line is the mark of a submodule's state, a word, and the submodule's path. -/
def Tells (line : List Char) (submodule : Submodule) : Prop :=
  ∃ rest, line = submodule.state.mark :: rest ∧ Text.SecondWord rest submodule.path.toList

theorem ofLine?_eq_some_iff {line : List Char} {submodule : Submodule} :
    ofLine? line = some submodule ↔ Tells line submodule := by
  unfold Tells
  constructor
  · intro h
    unfold ofLine? at h
    split at h
    · cases h
    · rename_i mark rest
      split at h
      · rename_i state first path more hstate hwords
        cases h
        refine ⟨rest, ?_, Text.secondWord_iff.2 ⟨first, more, ?_⟩⟩
        · rw [SubmoduleState.ofMark?_eq_some_iff.1 hstate]
        · rw [hwords, String.toList_ofList]
      · cases h
  · rintro ⟨rest, rfl, hsecond⟩
    obtain ⟨first, more, hwords⟩ := Text.secondWord_iff.1 hsecond
    rw [ofLine?, SubmoduleState.ofMark?_eq_some_iff.2 rfl, hwords]
    simp

theorem ofLine?_of_mark_not_mem {line : List Char}
    (h : ∀ c ∈ line.head?, c ∉ SubmoduleState.marks) : ofLine? line = none := by
  cases line with
  | nil => rfl
  | cons c rest => rw [ofLine?, SubmoduleState.ofMark?_eq_none (h c rfl)]

/-- A carriage return behind a line makes no difference. -/
theorem ofLine?_append_return (line : List Char) : ofLine? (line ++ ['\r']) = ofLine? line := by
  cases line with
  | nil => rfl
  | cons c rest => rw [List.cons_append, ofLine?, ofLine?, Text.words_append_blank (by decide)]

/-! ### A text -/

theorem ofStatus_of_not_mem {text : String} (h : '\n' ∉ text.toList) :
    ofStatus text = (ofLine? text.toList).toList :=
  Text.filterMap_lines_last rfl h

/-- A text is read part by part where a newline is between its parts. -/
theorem ofStatus_append (first second : String) :
    ofStatus (first ++ "\n" ++ second) = ofStatus first ++ ofStatus second := by
  have htext : (first ++ "\n" ++ second).toList = first.toList ++ '\n' :: second.toList := by
    rw [String.toList_append, String.toList_append, List.append_assoc]
    rfl
  rw [ofStatus, htext]
  exact Text.filterMap_lines_append rfl ofLine?_append_return first.toList second.toList

/-- Of one line at most one submodule is read: the one that it tells of. -/
theorem ofStatus_line {line : String} (h : '\n' ∉ line.toList) :
    (ofStatus line).length ≤ 1 ∧
      ∀ submodule, submodule ∈ ofStatus line ↔ Tells line.toList submodule := by
  rw [ofStatus_of_not_mem h]
  refine ⟨?_, fun submodule => ?_⟩
  · cases ofLine? line.toList with
    | none => exact Nat.zero_le 1
    | some submodule => exact Nat.le_refl 1
  · rw [Option.mem_toList, ofLine?_eq_some_iff]

/-! ### What is listed -/

inductive LineEnd where
  | newline
  /-- A carriage return, and a newline. -/
  | returned

def LineEnd.text : LineEnd → String
  | .newline => "\n"
  | .returned => "\r\n"

inductive ListedLine where
  /-- A submodule at some commit, with what is said about the commit behind its path. -/
  | entry (mark : Char) (id path described : String)
  | other (text : String)

namespace ListedLine

def text : ListedLine → String
  | .entry mark id path described => String.ofList [mark] ++ id ++ " " ++ path ++ described
  | .other text => text

/-- Whether the mark is that of a state and the path is one word, and whether a line that is
no entry begins with another character than a mark. -/
def WellFormed : ListedLine → Prop
  | .entry mark id path described =>
    mark ∈ SubmoduleState.marks ∧ Text.IsWord id.toList ∧ Text.IsWord path.toList ∧
      Text.EndsWord described.toList ∧ '\n' ∉ described.toList
  | .other text => (∀ c ∈ text.toList.head?, c ∉ SubmoduleState.marks) ∧ '\n' ∉ text.toList

instance : (line : ListedLine) → Decidable line.WellFormed
  | .entry mark id path described => inferInstanceAs (Decidable
    (mark ∈ SubmoduleState.marks ∧ Text.IsWord id.toList ∧ Text.IsWord path.toList ∧
      Text.EndsWord described.toList ∧ '\n' ∉ described.toList))
  | .other text => @instDecidableAnd _ _ (Option.decidableForallMem text.toList.head?) inferInstance

/-- The mark and the path of an entry. -/
def item? : ListedLine → Option (Char × String)
  | .entry mark _ path _ => some (mark, path)
  | .other _ => none

theorem newline_not_mem_text {line : ListedLine} (h : line.WellFormed) :
    '\n' ∉ line.text.toList := by
  cases line with
  | other text => exact h.2
  | entry mark id path described =>
    obtain ⟨hmark, hid, hpath, -, hdescribed⟩ := h
    have hnewline : '\n' ≠ mark := by
      rintro rfl
      revert hmark
      decide
    simp only [text, String.toList_append, List.mem_append, String.toList_ofList,
      List.mem_singleton, not_or]
    exact ⟨⟨⟨⟨hnewline, hid.not_mem (by decide)⟩, by decide⟩, hpath.not_mem (by decide)⟩, hdescribed⟩

end ListedLine

/-- How a submodule is listed. -/
def entry (submodule : Submodule) : Char × String :=
  (submodule.state.mark, submodule.path)

theorem ofLine?_listedLine {line : ListedLine} (h : line.WellFormed) :
    (ofLine? line.text.toList).map entry = line.item? := by
  cases line with
  | other text =>
    show (ofLine? text.toList).map entry = none
    rw [ofLine?_of_mark_not_mem h.1]
    rfl
  | entry mark id path described =>
    obtain ⟨hmark, hid, hpath, hends, -⟩ := h
    obtain ⟨state, rfl⟩ := SubmoduleState.mem_marks_iff.1 hmark
    have htells : Tells (ListedLine.text (.entry state.mark id path described)).toList ⟨path, state⟩ := by
      refine ⟨id.toList ++ ([' '] ++ path.toList ++ described.toList), ?_, [], id.toList, [' '],
        described.toList, rfl, ?_, hid, ?_, ?_, hpath, hends⟩
      · simp [ListedLine.text]
      · decide
      · decide
      · decide
    rw [ofLine?_eq_some_iff.2 htells]
    rfl

/-- Lines, each with its line end. -/
def listing (lines : List (ListedLine × LineEnd)) : String :=
  String.join (lines.map fun line => line.1.text ++ line.2.text)

theorem ofStatus_listedLine {line : ListedLine} (h : line.WellFormed) (stop : LineEnd)
    (rest : String) :
    ofStatus (line.text ++ stop.text ++ rest) = (ofLine? line.text.toList).toList ++ ofStatus rest := by
  have hline := ListedLine.newline_not_mem_text h
  cases stop with
  | newline =>
    rw [show LineEnd.newline.text = "\n" from rfl, ofStatus_append, ofStatus_of_not_mem hline]
  | returned =>
    have hreturn : (line.text ++ "\r").toList = line.text.toList ++ ['\r'] := String.toList_append
    have hmem : '\n' ∉ (line.text ++ "\r").toList := by
      rw [hreturn, List.mem_append, not_or]
      exact ⟨hline, by decide⟩
    have hstop : line.text ++ LineEnd.returned.text = line.text ++ "\r" ++ "\n" := by
      rw [String.append_assoc]
      rfl
    rw [hstop, ofStatus_append, ofStatus_of_not_mem hmem, hreturn, ofLine?_append_return]

/-- Whether these are the entries that are read of a text, and the ones of them that are
marked as never checked out are the submodules that are missing. -/
def ReadAs (text : String) (entries : List (Char × String)) : Prop :=
  (ofStatus text).map entry = entries ∧
    (uninitialized (ofStatus text)).map entry = entries.filter fun listed => listed.1 = '-'

theorem map_entry_uninitialized (submodules : List Submodule) :
    (uninitialized submodules).map entry =
      (submodules.map entry).filter fun listed => listed.1 = '-' := by
  rw [uninitialized, List.filter_map]
  refine congrArg (List.map entry) (List.filter_congr fun submodule _ => ?_)
  rw [Bool.eq_iff_iff]
  simp [isUninitialized, entry, SubmoduleState.mark_eq_iff]

theorem readAs_of_map_entry {text : String} {entries : List (Char × String)}
    (h : (ofStatus text).map entry = entries) : ReadAs text entries :=
  ⟨h, by rw [map_entry_uninitialized, h]⟩

/-- What was listed is read back, in order. -/
theorem ofStatus_listing {lines : List (ListedLine × LineEnd)} (h : ∀ line ∈ lines, line.1.WellFormed) :
    (ofStatus (listing lines)).map entry = lines.filterMap fun line => line.1.item? := by
  induction lines with
  | nil => rfl
  | cons line rest ih =>
    have hline := h line List.mem_cons_self
    have hrest := ih fun other hother => h other (List.mem_cons_of_mem line hother)
    rw [listing, List.map_cons, String.join_cons, ofStatus_listedLine hline, List.map_append,
      ← listing, hrest, List.filterMap_cons, ← ofLine?_listedLine hline]
    cases ofLine? line.1.text.toList <;> rfl

/-- Entries that are listed with nothing behind their paths. -/
theorem statusText_eq_listing (entries : List (Char × String)) :
    Project.statusText entries = listing (entries.map fun listed =>
      (.entry listed.1 Project.submoduleId listed.2 "", .newline)) := by
  rw [Project.statusText, listing, List.map_map]
  refine congrArg String.join (List.map_congr_left fun listed _ => ?_)
  show _ = String.ofList [listed.1] ++ Project.submoduleId ++ " " ++ listed.2 ++ "" ++ "\n"
  rw [String.append_empty]

theorem ofStatus_statusText {entries : List (Char × String)}
    (h : ∀ listed ∈ entries, listed.1 ∈ SubmoduleState.marks ∧ Text.IsWord listed.2.toList) :
    (ofStatus (Project.statusText entries)).map entry = entries := by
  rw [statusText_eq_listing, ofStatus_listing, List.filterMap_map]
  · exact List.filterMap_some
  · intro line hline
    obtain ⟨listed, hlisted, rfl⟩ := List.mem_map.1 hline
    obtain ⟨hmark, hpath⟩ := h listed hlisted
    exact ⟨hmark, by decide, hpath, by decide, by decide⟩

/-- A text is read part by part, a line as what it tells of, and a listing as its entries. -/
theorem ofStatus_reads :
    (∀ first second : String,
      ofStatus (first ++ "\n" ++ second) = ofStatus first ++ ofStatus second) ∧
    (∀ line : String, '\n' ∉ line.toList → (ofStatus line).length ≤ 1 ∧
      ∀ submodule, submodule ∈ ofStatus line ↔ Tells line.toList submodule) ∧
    (∀ lines : List (ListedLine × LineEnd), (∀ line ∈ lines, line.1.WellFormed) →
      ReadAs (listing lines) (lines.filterMap fun line => line.1.item?)) ∧
    (∀ entries : List (Char × String),
      (∀ listed ∈ entries, listed.1 ∈ SubmoduleState.marks ∧ Text.IsWord listed.2.toList) →
      ReadAs (Project.statusText entries) entries) :=
  ⟨ofStatus_append, fun _ h => ofStatus_line h,
    fun _ h => readAs_of_map_entry (ofStatus_listing h),
    fun _ h => readAs_of_map_entry (ofStatus_statusText h)⟩

/-- Entries with and without a description, lines of other forms, and both line ends. -/
def mixedLines : List (ListedLine × LineEnd) :=
  [(.entry ' ' "0123abcd" "third_party/fmt" " (10.2.1)", .newline), (.other "", .newline),
    (.other "not a status line", .returned),
    (.entry '-' Project.submoduleId "third_party/spdlog" "", .returned)]

theorem mixedLines_read :
    ('\n' ∉ " 0123abcd third_party/fmt".toList ∧
      (ofStatus " 0123abcd third_party/fmt").length ≤ 1) ∧
    ((∀ line ∈ mixedLines, line.1.WellFormed) ∧
      ReadAs (listing mixedLines) [(' ', "third_party/fmt"), ('-', "third_party/spdlog")]) ∧
    ((∀ listed ∈ [('U', "a"), ('-', "b/c")],
        listed.1 ∈ SubmoduleState.marks ∧ Text.IsWord listed.2.toList) ∧
      ReadAs (Project.statusText [('U', "a"), ('-', "b/c")]) [('U', "a"), ('-', "b/c")]) :=
  ⟨⟨by decide, (ofStatus_reads.2.1 _ (by decide)).1⟩,
    ⟨by decide, ofStatus_reads.2.2.1 mixedLines (by decide)⟩,
    ⟨by decide, ofStatus_reads.2.2.2 _ (by decide)⟩⟩

end Submodule
end BuildConductor
