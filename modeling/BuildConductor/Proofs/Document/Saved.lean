import BuildConductor.Proofs.ConfigFile
import BuildConductor.Proofs.Json.Reading

/-! Saving a document and reading it again.

`Document.Orderly` is what reading gives: a platform that its text names, options
that are what their values say, and other members under names that mean nothing.
`orderly_of_read` shows it of every text. `read_write` is the converse: an orderly
document whose numbers are integers of 64 bits is read back from the text it is
saved as. -/
namespace BuildConductor

open Json (Reader Fills write)

/-! ### What reading gives -/

/-- The numbers that an option holds. -/
def OptionValue.numbers : OptionValue → List Number
  | .bool _ | .string _ => []
  | .other value => value.numbers

/-- All numbers that a document holds, in its options and in members that mean
nothing here. -/
def Document.numbers (doc : Document) : List Number :=
  doc.options.values.flatMap OptionValue.numbers ++ doc.extra.values.flatMap Json.numbers

/-- An option is kept as what its value says, and no deeper than options may nest. -/
structure OptionValue.Orderly (value : OptionValue) : Prop where
  ofJson : OptionValue.ofJson value.toJson = value
  toJson : value.toJson.Orderly (Json.deepest - 2)

/-- Other members have other names, and values no deeper than they may nest. -/
structure ExtraOrderly (entry : String × Json) : Prop where
  name : ∀ field ∈ DocumentDraft.fields, field.name ≠ entry.1
  value : entry.2.Orderly (Json.deepest - 1)

/-- A document as it is read. -/
structure Document.Orderly (doc : Document) : Prop where
  platform : PlatformSetting.ofText doc.platform.text = doc.platform
  options : ∀ entry ∈ doc.options.entries, OptionValue.Orderly entry.2
  extra : ∀ entry ∈ doc.extra.entries, ExtraOrderly entry

/-- A draft of such a document. -/
structure DocumentDraft.Orderly (draft : DocumentDraft) : Prop where
  platform : ∀ setting ∈ draft.platform, PlatformSetting.ofText setting.text = setting
  options : ∀ options ∈ draft.options, ∀ entry ∈ options.entries, OptionValue.Orderly entry.2
  extra : ∀ entry ∈ draft.extra.entries, ExtraOrderly entry

/-- A setting is read back from its text: `auto` in any letter case is kept as such,
and every other name as it is. -/
theorem PlatformSetting.ofText_text_ofText (s : String) :
    PlatformSetting.ofText (PlatformSetting.ofText s).text = PlatformSetting.ofText s := by
  by_cases h : Text.sameUpToAsciiCase s "auto" = true
  · have hauto : PlatformSetting.ofText s = .auto := by
      rw [PlatformSetting.ofText, if_pos h]
    rw [hauto]
    decide
  · have hfixed : PlatformSetting.ofText s = .fixed (.ofStored s) := by
      rw [PlatformSetting.ofText, if_neg h]
    rw [hfixed, PlatformSetting.text, Platform.name_ofStored, hfixed]

/-- An option keeps what its value says. -/
theorem OptionValue.orderly_ofJson {value : Json} (h : value.Orderly (Json.deepest - 2)) :
    OptionValue.Orderly (OptionValue.ofJson value) := by
  cases value <;> exact ⟨rfl, h⟩

theorem KeyMap.reader_yields {α : Type} {item : Reader α} {P : α → Prop} (h : item.Yields P) :
    (KeyMap.reader item).Yields fun m => ∀ entry ∈ m.entries, P entry.2 := by
  intro cs m rest hread
  simp only [KeyMap.reader] at hread
  split at hread
  · cases hread
  split at hread
  · have hstep (state : KeyMap α) (key : String) (reader : Reader (KeyMap α))
        (hstate : ∀ entry ∈ state.entries, P entry.2)
        (hreader : some (item.map fun a => state.insert key a) = some reader) :
        reader.Yields fun m => ∀ entry ∈ m.entries, P entry.2 := by
      cases hreader
      exact h.map fun a ha => forall_mem_insertEntry ha hstate
    exact Json.readObject_invariant hstep (List.forall_mem_nil _) hread
  · cases hread

namespace DocumentDraft

theorem orderly_start : DocumentDraft.Orderly {} := by
  refine ⟨?_, ?_, List.forall_mem_nil _⟩ <;> intro a ha <;> cases ha

/-- Every member that means something keeps a draft orderly. -/
theorem orderly_field {draft : DocumentDraft} (hdraft : draft.Orderly)
    {field : Field DocumentDraft} (hfield : field ∈ fields) :
    field.reader.Yields fun set => (set draft).Orderly := by
  simp only [fields, List.mem_cons, List.not_mem_nil, or_false] at hfield
  rcases hfield with rfl | rfl | rfl | rfl | rfl
  · refine Json.text.yields_true.map fun s _ =>
      ⟨fun setting hsetting => ?_, hdraft.options, hdraft.extra⟩
    cases hsetting
    exact PlatformSetting.ofText_text_ofText s
  · exact Json.text.yields_true.map fun _ _ => ⟨hdraft.platform, hdraft.options, hdraft.extra⟩
  · exact (KeyMap.reader ModuleSwitches.reader).yields_true.map fun _ _ =>
      ⟨hdraft.platform, hdraft.options, hdraft.extra⟩
  · exact (KeyMap.reader DependencySwitches.reader).yields_true.map fun _ _ =>
      ⟨hdraft.platform, hdraft.options, hdraft.extra⟩
  · have hoption := (Json.value_yields (Json.deepest - 2)).map fun _ h =>
      OptionValue.orderly_ofJson h
    refine (KeyMap.reader_yields hoption).map fun options hoptions =>
      ⟨hdraft.platform, fun other hother => ?_, hdraft.extra⟩
    cases hother
    exact hoptions

/-- Whatever the fields that were not read yet keep, and the other members, every member of a
document keeps. -/
theorem member_yields {P : DocumentDraft → Prop} {draft : DocumentDraft}
    (hfields : ∀ field ∈ fields, field.isRead draft = false →
      field.reader.Yields fun set => P (set draft))
    (hextra : ∀ key, (∀ field ∈ fields, field.name ≠ key) →
      (Json.value (Json.deepest - 1)).Yields fun value =>
        P {draft with extra := draft.extra.insert key value})
    {key : String} {reader : Reader DocumentDraft} (h : member draft key = some reader) :
    reader.Yields P := by
  unfold member at h
  split at h
  · rename_i field hfind
    split at h
    · cases h
    rename_i hnew
    cases h
    have hfield := hfields field (List.mem_of_find?_eq_some hfind) (Bool.eq_false_iff.2 hnew)
    exact hfield.map fun _ h => h
  · rename_i hfind
    cases h
    refine (hextra key fun field hfield heq => ?_).map fun _ h => h
    exact List.find?_eq_none.1 hfind field hfield (beq_iff_eq.2 heq)

/-- Every member of a document keeps its draft orderly. -/
theorem orderly_member (draft : DocumentDraft) (key : String) (reader : Reader DocumentDraft)
    (hdraft : draft.Orderly) (hreader : member draft key = some reader) :
    reader.Yields DocumentDraft.Orderly := by
  refine member_yields (fun field hfield _ => orderly_field hdraft hfield)
    (fun key hname => ?_) hreader
  intro cs value rest hread
  have hvalue := Json.value_yields (Json.deepest - 1) cs value rest hread
  exact ⟨hdraft.platform, hdraft.options, forall_mem_insertEntry ⟨hname, hvalue⟩ hdraft.extra⟩

theorem orderly_toDocument {draft : DocumentDraft} (h : draft.Orderly) :
    draft.toDocument.Orderly := by
  refine ⟨?_, ?_, h.extra⟩
  · cases hplatform : draft.platform with
    | none =>
      simp only [toDocument, hplatform, Option.getD_none]
      decide
    | some setting =>
      simp only [toDocument, hplatform, Option.getD_some]
      exact h.platform setting hplatform
  · cases hoptions : draft.options with
    | none =>
      simp only [toDocument, hoptions, Option.getD_none]
      exact List.forall_mem_nil _
    | some options =>
      simp only [toDocument, hoptions, Option.getD_some]
      exact h.options options hoptions

end DocumentDraft

/-- A text that is read, is read by its reader from the start. -/
theorem Json.readAll_eq_ok {α : Type} {reader : Reader α} {cs : List Char} {a : α}
    (h : Json.readAll reader cs = .ok a) : ∃ rest, reader.read cs = .ok (a, rest) := by
  unfold Json.readAll at h
  split at h
  · cases h
  · rename_i hread
    split at h
    · cases h
      exact ⟨_, hread⟩
    · cases h

/-- Every document that was read is orderly. -/
theorem Document.orderly_of_read {text : String} {doc : Document}
    (h : Document.read text = .ok doc) : doc.Orderly := by
  obtain ⟨rest, hread⟩ := Json.readAll_eq_ok h
  simp only [Document.reader] at hread
  split at hread
  · cases hread
  split at hread
  · obtain ⟨⟨draft, _⟩, hobject, heq⟩ := except_map_eq_ok hread
    cases heq
    exact DocumentDraft.orderly_toDocument (Json.readObject_invariant
      DocumentDraft.orderly_member DocumentDraft.orderly_start hobject)
  · cases hread

/-! ### What is written is read back -/

section Writing
variable {spacing : Json.Spacing} (hspacing : spacing.IsBlank)
include hspacing

/-- A map is read back if its values are. -/
theorem KeyMap.reader_takes {α : Type} {item : Reader α} (value : α → Json) (depth : Nat)
    (m : KeyMap α)
    (h : ∀ entry ∈ m.entries, item.Takes (write spacing (depth + 1) (value entry.2)) entry.2) :
    (KeyMap.reader item).Takes (write spacing depth (m.toJson value)) m := by
  let member (m : KeyMap α) (key : String) : Option (Reader (KeyMap α)) :=
    some (item.map fun a => m.insert key a)
  have hfills : Fills member spacing (depth + 1) .empty
      (m.entries.map fun entry => (entry.1, value entry.2)) m :=
    Json.fills_insert (fun m => m) value .empty m m.entries rfl (fun _ _ _ => rfl) h
  obtain ⟨body, hwritten, hread⟩ := Json.readObject_written hspacing hfills
  intro blanks rest hblanks _
  simp only [KeyMap.reader, KeyMap.toJson, hwritten, List.append_assoc, List.cons_append,
    Json.skipSpaces_blanks_cons hblanks (c := '\x7b') rfl, if_true]
  exact hread rest

/-- A record is read back from its members. -/
theorem Field.record_takes {σ : Type} (wanted : Json.Wanted) {fields : List (Field σ)}
    {start final : σ} {depth : Nat} {members : List (String × Json)}
    (h : Fills (Field.member fields) spacing (depth + 1) start members final) :
    (Field.record wanted fields start).Takes (write spacing depth (.object members)) final := by
  obtain ⟨body, hwritten, hread⟩ := Json.readObject_written hspacing h
  intro blanks rest hblanks _
  simp only [Field.record, hwritten, List.append_assoc, List.cons_append,
    Json.skipSpaces_blanks_cons hblanks (c := '\x7b') rfl, hread, Char.reduceEq, if_false, if_true]

omit hspacing in
/-- A field of a record takes the member of its name once. -/
theorem Field.fills_cons {σ : Type} {fields : List (Field σ)} (field : Field σ) {depth : Nat}
    {state final : σ} {value : Json} {set : σ → σ} {members : List (String × Json)}
    (hfind : (fields.find? fun other => other.name == field.name) = some field)
    (hnew : field.isRead state = false)
    (htakes : field.reader.Takes (write spacing depth value) set)
    (hrest : Fills (Field.member fields) spacing depth (set state) members final) :
    Fills (Field.member fields) spacing depth state ((field.name, value) :: members) final := by
  refine .cons ?_ (htakes.map fun set => set state) hrest
  simp only [Field.member, hfind, hnew, Bool.false_eq_true, if_false]

open SwitchDraft in
theorem ModuleSwitches.reader_takes (depth : Nat) (m : ModuleSwitches) :
    ModuleSwitches.reader.Takes (write spacing depth m.toJson) m := by
  have hboolean := Json.boolean_takes spacing (depth + 1)
  have hswitch (b : Bool) := (hboolean b).map some
  let switch := Json.boolean.map some
  have hfills : Fills (Field.member [enabledField, testsField switch, examplesField switch]) spacing
      (depth + 1) {}
      [("enabled", .bool m.enabled), ("tests", .bool m.tests), ("examples", .bool m.examples)]
      ⟨some m.enabled, some (some m.tests), some (some m.examples)⟩ := by
    refine Field.fills_cons enabledField rfl rfl ((hboolean m.enabled).map _) ?_
    refine Field.fills_cons (testsField switch) rfl rfl ((hswitch m.tests).map _) ?_
    refine Field.fills_cons (examplesField switch) rfl rfl ((hswitch m.examples).map _) ?_
    exact .nil _
  exact (Field.record_takes hspacing .moduleSwitches hfills).map SwitchDraft.toModule

omit hspacing in
/-- A switch that was never set has no member, and leaves the state as it is. -/
theorem Field.fills_switchMember {σ : Type} {fields : List (Field σ)} (field : Field σ)
    {depth : Nat} {state final : σ} {set : Option Bool → σ → σ} {members : List (String × Json)}
    (value : Option Bool) (hreader : field.reader = (Json.optional Json.boolean).map set)
    (hfind : (fields.find? fun other => other.name == field.name) = some field)
    (hnew : field.isRead state = false)
    (hrest : Fills (Field.member fields) spacing depth
      (value.elim state fun b => set (some b) state) members final) :
    Fills (Field.member fields) spacing depth state (switchMember field.name value ++ members)
      final := by
  cases value with
  | none => exact hrest
  | some b =>
    refine Field.fills_cons field hfind hnew ?_ hrest
    rw [hreader]
    exact (Json.optional_boolean_takes spacing depth b).map set

open SwitchDraft in
theorem DependencySwitches.reader_takes (depth : Nat) (d : DependencySwitches) :
    DependencySwitches.reader.Takes (write spacing depth d.toJson) d := by
  have henabled := Json.boolean_takes spacing (depth + 1) d.enabled
  let switch := Json.optional Json.boolean
  have hfills : Fills (Field.member [enabledField, examplesField switch, testsField switch]) spacing
      (depth + 1) {}
      (("enabled", .bool d.enabled) ::
        (switchMember "examples" d.examples ++ (switchMember "tests" d.tests ++ [])))
      ⟨some d.enabled, d.tests.map some, d.examples.map some⟩ := by
    refine Field.fills_cons enabledField rfl rfl (henabled.map _) ?_
    refine Field.fills_switchMember (examplesField switch) d.examples rfl rfl rfl ?_
    refine Field.fills_switchMember (testsField switch) d.tests rfl rfl ?_ ?_
    · cases d.examples <;> rfl
    · cases d with
      | mk enabled examples tests => cases examples <;> cases tests <;> exact .nil _
  have htakes :=
    (Field.record_takes hspacing .dependencySwitches hfills).map SwitchDraft.toDependency
  have hdraft : SwitchDraft.toDependency ⟨some d.enabled, d.tests.map some, d.examples.map some⟩ =
      d := by
    cases d with
    | mk enabled examples tests => cases examples <;> cases tests <;> rfl
  rw [hdraft, List.append_nil] at htakes
  exact htakes

omit hspacing in
/-- A member that means something is taken once. -/
theorem DocumentDraft.fills_cons (field : Field DocumentDraft) {depth : Nat}
    {state final : DocumentDraft} {value : Json} {set : DocumentDraft → DocumentDraft}
    {members : List (String × Json)}
    (hfind : (fields.find? fun other => other.name == field.name) = some field)
    (hnew : field.isRead state = false)
    (htakes : field.reader.Takes (write spacing depth value) set)
    (hrest : Fills member spacing depth (set state) members final) :
    Fills member spacing depth state ((field.name, value) :: members) final := by
  refine .cons ?_ (htakes.map fun set => set state) hrest
  simp only [member, hfind, hnew, Bool.false_eq_true, if_false]

/-- Options are read back as what they are. -/
theorem OptionValue.reader_takes {value : OptionValue} (h : value.Orderly)
    (hnumbers : ∀ n ∈ value.numbers, n.IsInteger64) (depth : Nat) :
    ((Json.value (Json.deepest - 2)).map OptionValue.ofJson).Takes
      (write spacing depth value.toJson) value := by
  have heq : value.toJson.numbers = value.numbers := by
    cases value <;> rfl
  have htakes := (Json.value_takes hspacing h.toJson (heq ▸ hnumbers) depth).takes
  have hmap := htakes.map OptionValue.ofJson
  rwa [h.ofJson] at hmap

/-- A draft that has all of a document, with these other members. -/
def Document.draftWith (doc : Document) (extra : KeyMap Json) : DocumentDraft :=
  ⟨some doc.platform, some doc.buildType, some doc.modules, some doc.dependencies,
    some doc.options, extra⟩

/-- The other members of a document are read one after the other. -/
theorem Document.fills_extra {doc : Document} (h : doc.Orderly)
    (hnumbers : ∀ n ∈ doc.numbers, n.IsInteger64) :
    Fills DocumentDraft.member spacing 1 (doc.draftWith .empty) doc.extra.entries
      (doc.draftWith doc.extra) := by
  have hmember (m : KeyMap Json) (entry : String × Json) (hentry : entry ∈ doc.extra.entries) :
      DocumentDraft.member (doc.draftWith m) entry.1 =
        some ((Json.value (Json.deepest - 1)).map fun value =>
          doc.draftWith (m.insert entry.1 value)) := by
    have hnone : (DocumentDraft.fields.find? fun field => field.name == entry.1) = none := by
      rw [List.find?_eq_none]
      intro field hfield heq
      exact (h.extra entry hentry).name field hfield (beq_iff_eq.1 heq)
    rw [DocumentDraft.member, hnone]
    rfl
  have htakes (entry : String × Json) (hentry : entry ∈ doc.extra.entries) :
      (Json.value (Json.deepest - 1)).Takes (Json.write spacing 1 entry.2) entry.2 := by
    refine (Json.value_takes hspacing (h.extra entry hentry).value (fun n hn => ?_) 1).takes
    refine hnumbers n (List.mem_append_right _ (List.mem_flatMap.2 ⟨entry.2, ?_, hn⟩))
    exact List.mem_map_of_mem hentry
  have hfills := Json.fills_insert doc.draftWith (fun v => v) .empty doc.extra doc.extra.entries rfl
    hmember htakes
  rwa [List.map_id'] at hfills

open DocumentDraft in
/-- The members of a document, one after the other, give all of it. -/
theorem Document.fills_members {doc : Document} (h : doc.Orderly)
    (hnumbers : ∀ n ∈ doc.numbers, n.IsInteger64) :
    ∃ members, doc.toJson = .object members ∧
      Fills DocumentDraft.member spacing 1 {} members (doc.draftWith doc.extra) := by
  have hplatform := (Json.text_takes doc.platform.text).map
    fun s (d : DocumentDraft) => {d with platform := some (.ofText s)}
  have hmodules := KeyMap.reader_takes hspacing ModuleSwitches.toJson 1 doc.modules
    fun entry _ => ModuleSwitches.reader_takes hspacing 2 entry.2
  have hdependencies := KeyMap.reader_takes hspacing DependencySwitches.toJson 1 doc.dependencies
    fun entry _ => DependencySwitches.reader_takes hspacing 2 entry.2
  have hoptions := KeyMap.reader_takes hspacing OptionValue.toJson 1 doc.options
    fun entry hentry => OptionValue.reader_takes hspacing (h.options entry hentry)
      (fun n hn => hnumbers n (List.mem_append_left _ (List.mem_flatMap.2
        ⟨entry.2, List.mem_map_of_mem hentry, hn⟩))) 2
  rw [h.platform] at hplatform
  refine ⟨_, rfl, ?_⟩
  refine fills_cons platformField rfl rfl hplatform ?_
  refine fills_cons buildTypeField rfl rfl ((Json.text_takes doc.buildType).map _) ?_
  refine fills_cons modulesField rfl rfl (hmodules.map _) ?_
  refine fills_cons dependenciesField rfl rfl (hdependencies.map _) ?_
  refine fills_cons optionsField rfl rfl (hoptions.map _) ?_
  exact Document.fills_extra hspacing h hnumbers

end Writing

/-- An orderly document whose numbers are integers of 64 bits is read back from the
text that it is saved as. -/
theorem Document.read_write {doc : Document} (h : doc.Orderly)
    (hnumbers : ∀ n ∈ doc.numbers, n.IsInteger64) : Document.read doc.write = .ok doc := by
  obtain ⟨members, hjson, hfills⟩ := Document.fills_members Json.prettySpacing_isBlank h hnumbers
  obtain ⟨body, hwritten, hread⟩ := Json.readObject_written Json.prettySpacing_isBlank hfills
  have htext : doc.write.toList = '\x7b' :: (body ++ ['\n']) := by
    rw [Document.write, Json.pretty, hjson, hwritten, String.toList_append, String.toList_ofList]
    rfl
  have hreader : Document.reader.read doc.write.toList = .ok (doc, ['\n']) := by
    simp only [Document.reader, htext, Json.skipSpaces_cons (c := '\x7b') rfl, hread, if_true]
    rfl
  rw [Document.read, Json.readAll, hreader]
  rfl

/-- Saving a document that was read and reading it again loses nothing. -/
theorem Document.parse_write_of_parse {text : String} {path : Path} {doc : Document}
    (hparse : Document.parse text path = .ok doc) (hnumbers : ∀ n ∈ doc.numbers, n.IsInteger64)
    (other : Path) : Document.parse doc.write other = .ok doc := by
  have hread := Document.parse_eq_ok_iff.1 hparse
  exact Document.parse_eq_ok_iff.2 (Document.read_write (Document.orderly_of_read hread) hnumbers)

/-- A text with its members in any order: switches as a list, an option of each
kind, and a member that means nothing with integers at both ends of their range. -/
def mixedText : String :=
  "\x7b\"zeta\": \x7b\"b\": [18446744073709551615, \x7b\"y\": null, \"x\": \"\\u00e9\\n\"\x7d], " ++
  "\"a\": -9223372036854775808\x7d, \"platform\": \"AUTO\", \"modules\": \x7b\x7d, " ++
  "\"third_party\": \x7b\"imgui\": [true, null, false], \"glfw\": \x7b\"enabled\": false\x7d\x7d, " ++
  "\"cmake_options\": \x7b\"N\": 7, \"S\": \"a\\\"b\", \"B\": true\x7d\x7d"

/-- The document that it holds. -/
def mixedDocument : Document where
  platform := .auto
  buildType := "Release"
  modules := .empty
  dependencies := .ofList [("imgui", ⟨true, none, some false⟩), ("glfw", ⟨false, none, none⟩)]
  options := .ofList
    [("N", .other (.number (.integer 7))), ("S", .string "a\"b"), ("B", .bool true)]
  extra := .ofList [("zeta", .object
    [("a", .number (.integer (-9223372036854775808))),
      ("b", .array [.number (.integer 18446744073709551615),
        .object [("x", .string "é\n"), ("y", .null)]])])]

theorem Document.parse_write_mixed :
    Document.parse mixedText ⟨"a.json"⟩ = .ok mixedDocument ∧
      (∀ n ∈ mixedDocument.numbers, n.IsInteger64) ∧
      Document.parse mixedDocument.write ⟨"b.json"⟩ = .ok mixedDocument := by
  have hparse : Document.parse mixedText ⟨"a.json"⟩ = .ok mixedDocument := by
    have hread : (Document.read mixedText).toOption = some mixedDocument := by decide +kernel
    rw [Document.parse_eq_ok_iff]
    cases h : Document.read mixedText with
    | error fault => rw [h] at hread; cases hread
    | ok found => rw [h] at hread; cases hread; rfl
  have hnumbers : ∀ n ∈ mixedDocument.numbers, n.IsInteger64 := by decide +kernel
  exact ⟨hparse, hnumbers, Document.parse_write_of_parse hparse hnumbers ⟨"b.json"⟩⟩

end BuildConductor
