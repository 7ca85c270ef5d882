import BuildConductor.Proofs.Document.Fields
import BuildConductor.Proofs.Document.Saved
import BuildConductor.Proofs.Json.Printing

/-! The schema of documents.

`Json.IsDocument` says which values are documents: the members that mean something come
at most once and are what they must be. `Document.Holds` says what a document holds that
was read from members: the last value of every key, and defaults for what was not said.
`parse_spelled` puts the two together for every text that spells a value. -/
namespace BuildConductor

open Json (Reader Spells AllSpaces EndsNumber valuesOf lastOf? AtMostOne givenMembers?)

/-! ### What a document must be -/

/-- A switch of an entry. Some may be `null`, as if they were not there. -/
structure SwitchShape where
  name : String
  nullable : Bool

def ModuleSwitches.shape : List SwitchShape :=
  [⟨"enabled", false⟩, ⟨"tests", false⟩, ⟨"examples", false⟩]

def DependencySwitches.shape : List SwitchShape :=
  [⟨"enabled", false⟩, ⟨"examples", true⟩, ⟨"tests", true⟩]

def SwitchShape.Accepts (switch : SwitchShape) : Json → Prop
  | .bool _ => True
  | .null => switch.nullable = true
  | _ => False

/-- The members of an entry: those of an object, or the items of a list as the switches
in their order. -/
def Json.entryMembers? (shape : List SwitchShape) (v : Json) : Option (List (String × Json)) :=
  givenMembers? (shape.map SwitchShape.name) v

/-- Whether a value is an entry: each switch comes at most once, with a proper value. -/
def Json.IsEntry (shape : List SwitchShape) (v : Json) : Prop :=
  ∃ members, v.entryMembers? shape = some members ∧
    ∀ switch ∈ shape, AtMostOne switch.Accepts (valuesOf switch.name members)

def Json.IsText (v : Json) : Prop :=
  ∃ s, v = .string s

/-- Whether members are those of a document. -/
structure Json.DocumentMembers (members : List (String × Json)) : Prop where
  platform : AtMostOne IsText (valuesOf "platform" members)
  buildType : AtMostOne IsText (valuesOf "build_type" members)
  modules : AtMostOne (IsMapOf (IsEntry ModuleSwitches.shape)) (valuesOf "modules" members)
  dependencies :
    AtMostOne (IsMapOf (IsEntry DependencySwitches.shape)) (valuesOf "third_party" members)
  options : AtMostOne (IsMapOf fun _ => True) (valuesOf "cmake_options" members)

def Json.IsDocument (v : Json) : Prop :=
  ∃ members, v = .object members ∧ DocumentMembers members

/-! ### What a document holds -/

/-- What an entry says of a switch, if anything. -/
def Json.said? (shape : List SwitchShape) (name : String) (v : Json) : Option Bool :=
  ((v.entryMembers? shape).bind (lastOf? name)).bind bool?

def ModuleSwitches.ofEntry (v : Json) : ModuleSwitches where
  enabled := (v.said? shape "enabled").getD true
  tests := (v.said? shape "tests").getD true
  examples := (v.said? shape "examples").getD true

def DependencySwitches.ofEntry (v : Json) : DependencySwitches where
  enabled := (v.said? shape "enabled").getD true
  examples := v.said? shape "examples"
  tests := v.said? shape "tests"

/-- The members of the object at a key. -/
def Json.membersAt (key : String) (members : List (String × Json)) : List (String × Json) :=
  ((lastOf? key members).map Json.members).getD []

/-- The names of the members that mean something. -/
def documentNames : List String :=
  ["platform", "build_type", "modules", "third_party", "cmake_options"]

/-- Whether a document holds just what members say. -/
structure Document.Holds (doc : Document) (members : List (String × Json)) : Prop where
  platform : doc.platform =
    ((lastOf? "platform" members).bind Json.text?).elim .auto PlatformSetting.ofText
  buildType : doc.buildType =
    ((lastOf? "build_type" members).bind Json.text?).getD BuildType.release.name
  modules : ∀ name, doc.modules.find? name =
    (lastOf? name (Json.membersAt "modules" members)).map ModuleSwitches.ofEntry
  dependencies : ∀ name, doc.dependencies.find? name =
    (lastOf? name (Json.membersAt "third_party" members)).map DependencySwitches.ofEntry
  options : ∀ name, doc.options.find? name =
    (lastOf? name (Json.membersAt "cmake_options" members)).map fun v => .ofJson v.settled
  extra : ∀ key, doc.extra.find? key =
    if key ∈ documentNames then none else (lastOf? key members).map Json.settled

namespace SwitchDraft

/-- A switch that may be `null` or must not. -/
def switchReader : (nullable : Bool) → Reader (Option Bool)
  | true => Json.optional Json.boolean
  | false => Json.boolean.map some

def switch? : (nullable : Bool) → Json → Option (Option Bool)
  | true, v => Json.boolOrNull? v
  | false, v => (Json.bool? v).map some

theorem switchReader_decodes (nullable : Bool) (depth : Nat) :
    (switchReader nullable).Decodes depth (switch? nullable) := by
  cases nullable with
  | true => exact Json.optional_boolean_decodes depth
  | false => exact (Json.boolean_decodes depth).map some

def enabledSlot : Slot SwitchDraft :=
  .of enabledField Json.bool? fun b d => {d with enabled := some b}

def testsSlot (nullable : Bool) : Slot SwitchDraft :=
  .of (testsField (switchReader nullable)) (switch? nullable) fun b d => {d with tests := some b}

def examplesSlot (nullable : Bool) : Slot SwitchDraft :=
  .of (examplesField (switchReader nullable)) (switch? nullable)
    fun b d => {d with examples := some b}

theorem isSome_switch?_iff {name : String} {nullable : Bool} {v : Json} :
    (switch? nullable v).isSome ↔ SwitchShape.Accepts ⟨name, nullable⟩ v := by
  cases nullable <;> cases v <;>
    simp [switch?, Json.bool?, Json.boolOrNull?, SwitchShape.Accepts]

/-- Whether a slot is for a switch, and decodes the values that the switch accepts. -/
def Fits (slot : Slot SwitchDraft) (switch : SwitchShape) : Prop :=
  slot.name = switch.name ∧ ∀ v, (slot.decode v).isSome ↔ switch.Accepts v

theorem enabledSlot_fits : Fits enabledSlot ⟨"enabled", false⟩ := by
  refine ⟨rfl, fun v => ?_⟩
  rw [enabledSlot, Slot.isSome_decode_of]
  cases v <;> simp [Json.bool?, SwitchShape.Accepts]

theorem testsSlot_fits (nullable : Bool) : Fits (testsSlot nullable) ⟨"tests", nullable⟩ := by
  refine ⟨rfl, fun v => ?_⟩
  rw [testsSlot, Slot.isSome_decode_of, isSome_switch?_iff]

theorem examplesSlot_fits (nullable : Bool) :
    Fits (examplesSlot nullable) ⟨"examples", nullable⟩ := by
  refine ⟨rfl, fun v => ?_⟩
  rw [examplesSlot, Slot.isSome_decode_of, isSome_switch?_iff]

theorem names_eq_of_fits {slots : List (Slot SwitchDraft)} {shape : List SwitchShape}
    (h : List.Forall₂ Fits slots shape) :
    slots.map Slot.name = shape.map SwitchShape.name := by
  induction h with
  | nil => rfl
  | cons h _ ih => rw [List.map_cons, List.map_cons, h.1, ih]

theorem forall_fits_iff {slots : List (Slot SwitchDraft)} {shape : List SwitchShape}
    (h : List.Forall₂ Fits slots shape) (members : List (String × Json)) :
    (∀ slot ∈ slots, AtMostOne (fun v => (slot.decode v).isSome) (valuesOf slot.name members)) ↔
      ∀ switch ∈ shape, AtMostOne switch.Accepts (valuesOf switch.name members) := by
  induction h with
  | nil => simp
  | cons h _ ih =>
    rw [List.forall_mem_cons, List.forall_mem_cons, ih, h.1]
    exact and_congr_left' (Json.AtMostOne.iff h.2 _)

section Slots
variable {nullable : Bool} {slots : List (Slot SwitchDraft)}
  (hslots : slots.Perm [enabledSlot, testsSlot nullable, examplesSlot nullable])
include hslots

theorem mem_slots {slot : Slot SwitchDraft} :
    slot ∈ slots ↔
      slot = enabledSlot ∨ slot = testsSlot nullable ∨ slot = examplesSlot nullable := by
  rw [hslots.mem_iff]
  simp

theorem slots_lawful : Slot.Lawful slots fun state _ _ => state where
  names := by
    rw [(hslots.map Slot.name).nodup_iff]
    show ["enabled", "tests", "examples"].Nodup
    decide
  own slot hslot v set state hset := by
    rcases (mem_slots hslots).1 hslot with rfl | rfl | rfl
    all_goals
      obtain ⟨b, -, rfl⟩ := Option.map_eq_some_iff.1 hset
      rfl
  kept slot hslot s hs hne v set state hset := by
    rcases (mem_slots hslots).1 hslot with rfl | rfl | rfl
    all_goals
      obtain ⟨b, -, rfl⟩ := Option.map_eq_some_iff.1 hset
      rcases (mem_slots hslots).1 hs with rfl | rfl | rfl <;> first | exact absurd rfl hne | rfl
  other _ _ _ _ _ := rfl

theorem slots_decode {slot : Slot SwitchDraft} (hslot : slot ∈ slots) (depth : Nat) :
    slot.field.reader.Decodes depth slot.decode := by
  rcases (mem_slots hslots).1 hslot with rfl | rfl | rfl
  · exact (Json.boolean_decodes depth).map _
  · exact (switchReader_decodes nullable depth).map _
  · exact (switchReader_decodes nullable depth).map _

theorem slots_new {slot : Slot SwitchDraft} (hslot : slot ∈ slots) :
    slot.field.isRead {} = false := by
  rcases (mem_slots hslots).1 hslot with rfl | rfl | rfl <;> rfl

/-- A switch changes no other part of the draft. -/
theorem slots_keep {slot : Slot SwitchDraft} (hslot : slot ∈ slots) {v : Json}
    {set : SwitchDraft → SwitchDraft} (hset : slot.decode v = some set) (state : SwitchDraft) :
    (slot.name ≠ "enabled" → (set state).enabled = state.enabled) ∧
      (slot.name ≠ "tests" → (set state).tests = state.tests) ∧
      (slot.name ≠ "examples" → (set state).examples = state.examples) := by
  rcases (mem_slots hslots).1 hslot with rfl | rfl | rfl
  all_goals
    obtain ⟨b, -, rfl⟩ := Option.map_eq_some_iff.1 hset
    refine ⟨fun h => ?_, fun h => ?_, fun h => ?_⟩ <;> first | rfl | exact absurd rfl h

/-- A record of switches is decoded if and only if each switch comes at most once, with
a proper value. -/
theorem isSome_record_iff {shape : List SwitchShape} (hshape : List.Forall₂ Fits slots shape)
    (v : Json) : (Slot.record slots {} v).isSome ↔ v.IsEntry shape := by
  rw [Slot.isSome_record_iff (slots_lawful hslots) fun slot hslot => slots_new hslots hslot,
    Json.IsEntry, Json.entryMembers?, names_eq_of_fits hshape]
  exact exists_congr fun members => and_congr_right fun _ => forall_fits_iff hshape members

end Slots

end SwitchDraft

open SwitchDraft

def moduleSlots : List (Slot SwitchDraft) :=
  [enabledSlot, testsSlot false, examplesSlot false]

def dependencySlots : List (Slot SwitchDraft) :=
  [enabledSlot, examplesSlot true, testsSlot true]

/-- The switches of a module as they are decoded. -/
def ModuleSwitches.decode (v : Json) : Option ModuleSwitches :=
  (Slot.record moduleSlots {} v).map toModule

/-- The switches of a dependency as they are decoded. -/
def DependencySwitches.decode (v : Json) : Option DependencySwitches :=
  (Slot.record dependencySlots {} v).map toDependency

theorem moduleSlots_perm :
    moduleSlots.Perm [enabledSlot, testsSlot false, examplesSlot false] :=
  .refl _

theorem dependencySlots_perm :
    dependencySlots.Perm [enabledSlot, testsSlot true, examplesSlot true] :=
  (List.Perm.swap _ _ _).cons _

theorem ModuleSwitches.reader_decodes (depth : Nat) :
    ModuleSwitches.reader.Decodes (depth + 1) decode := by
  have hslots := fun slot (hslot : slot ∈ moduleSlots) => slots_decode moduleSlots_perm hslot depth
  exact (Slot.record_decodes hslots .moduleSwitches (List.cons_ne_nil _ _) {}).map toModule

theorem DependencySwitches.reader_decodes (depth : Nat) :
    DependencySwitches.reader.Decodes (depth + 1) decode := by
  have hslots := fun slot (hslot : slot ∈ dependencySlots) =>
    slots_decode dependencySlots_perm hslot depth
  exact (Slot.record_decodes hslots .dependencySwitches (List.cons_ne_nil _ _) {}).map toDependency

theorem ModuleSwitches.isSome_decode_iff (v : Json) : (decode v).isSome ↔ v.IsEntry shape := by
  have hfits : List.Forall₂ Fits moduleSlots shape :=
    .cons enabledSlot_fits (.cons (testsSlot_fits false) (.cons (examplesSlot_fits false) .nil))
  rw [decode, Option.isSome_map]
  exact isSome_record_iff moduleSlots_perm hfits v

theorem DependencySwitches.isSome_decode_iff (v : Json) :
    (decode v).isSome ↔ v.IsEntry shape := by
  have hfits : List.Forall₂ Fits dependencySlots shape :=
    .cons enabledSlot_fits (.cons (examplesSlot_fits true) (.cons (testsSlot_fits true) .nil))
  rw [decode, Option.isSome_map]
  exact isSome_record_iff dependencySlots_perm hfits v

namespace DocumentDraft

def platformSlot : Slot DocumentDraft :=
  .of platformField Json.text? fun s d => {d with platform := some (.ofText s)}

def buildTypeSlot : Slot DocumentDraft :=
  .of buildTypeField Json.text? fun s d => {d with buildType := some s}

def modulesSlot : Slot DocumentDraft :=
  .of modulesField (KeyMap.decode ModuleSwitches.decode) fun m d => {d with modules := some m}

def dependenciesSlot : Slot DocumentDraft :=
  .of dependenciesField (KeyMap.decode DependencySwitches.decode)
    fun m d => {d with dependencies := some m}

/-- An option is kept as what its settled value is. -/
def optionOf? (v : Json) : Option OptionValue :=
  some (.ofJson v.settled)

def optionsSlot : Slot DocumentDraft :=
  .of optionsField (KeyMap.decode optionOf?) fun m d => {d with options := some m}

def slots : List (Slot DocumentDraft) :=
  [platformSlot, buildTypeSlot, modulesSlot, dependenciesSlot, optionsSlot]

/-- What a member does that means nothing. -/
def keep (draft : DocumentDraft) (key : String) (v : Json) : DocumentDraft :=
  {draft with extra := draft.extra.insert key v.settled}

theorem mem_slots {slot : Slot DocumentDraft} :
    slot ∈ slots ↔ slot = platformSlot ∨ slot = buildTypeSlot ∨ slot = modulesSlot ∨
      slot = dependenciesSlot ∨ slot = optionsSlot := by
  simp [slots]

theorem platformSlot_mem : platformSlot ∈ slots :=
  mem_slots.2 (.inl rfl)

theorem buildTypeSlot_mem : buildTypeSlot ∈ slots :=
  mem_slots.2 (.inr (.inl rfl))

theorem modulesSlot_mem : modulesSlot ∈ slots :=
  mem_slots.2 (.inr (.inr (.inl rfl)))

theorem dependenciesSlot_mem : dependenciesSlot ∈ slots :=
  mem_slots.2 (.inr (.inr (.inr (.inl rfl))))

theorem optionsSlot_mem : optionsSlot ∈ slots :=
  mem_slots.2 (.inr (.inr (.inr (.inr rfl))))

theorem slots_lawful : Slot.Lawful slots keep where
  names := by
    show documentNames.Nodup
    decide
  own slot hslot v set state hset := by
    rcases mem_slots.1 hslot with rfl | rfl | rfl | rfl | rfl
    all_goals
      obtain ⟨b, -, rfl⟩ := Option.map_eq_some_iff.1 hset
      rfl
  kept slot hslot s hs hne v set state hset := by
    rcases mem_slots.1 hslot with rfl | rfl | rfl | rfl | rfl
    all_goals
      obtain ⟨b, -, rfl⟩ := Option.map_eq_some_iff.1 hset
      rcases mem_slots.1 hs with rfl | rfl | rfl | rfl | rfl <;>
        first | exact absurd rfl hne | rfl
  other slot hslot state key v := by
    rcases mem_slots.1 hslot with rfl | rfl | rfl | rfl | rfl <;> rfl

/-- The fields of a document, at the depth that its members have. -/
theorem slots_decode {slot : Slot DocumentDraft} (hslot : slot ∈ slots) :
    slot.field.reader.Decodes (Json.deepest - 1) slot.decode := by
  rcases mem_slots.1 hslot with rfl | rfl | rfl | rfl | rfl
  · exact (Json.text_decodes _).map _
  · exact (Json.text_decodes _).map _
  · exact (KeyMap.reader_decodes (ModuleSwitches.reader_decodes (Json.deepest - 3))).map _
  · exact (KeyMap.reader_decodes (DependencySwitches.reader_decodes (Json.deepest - 3))).map _
  · exact (KeyMap.reader_decodes
      ((Json.value_decodes (Json.deepest - 2)).map OptionValue.ofJson)).map _

theorem member_follows : Json.Follows member (Json.deepest - 1) (Slot.step slots keep) := by
  have hfields : fields = slots.map Slot.field := rfl
  refine Slot.follows (fun draft key => ?_) (fun _ hslot => slots_decode hslot) fun draft key =>
    (Json.value_decodes _).map fun v => {draft with extra := draft.extra.insert key v}
  rw [member, hfields]
  cases (slots.map Slot.field).find? fun field => field.name == key <;> rfl

/-- What a member of a name leaves as it is. -/
structure Keeps (name : String) (draft next : DocumentDraft) : Prop where
  platform : name ≠ "platform" → next.platform = draft.platform
  buildType : name ≠ "build_type" → next.buildType = draft.buildType
  modules : name ≠ "modules" → next.modules = draft.modules
  dependencies : name ≠ "third_party" → next.dependencies = draft.dependencies
  options : name ≠ "cmake_options" → next.options = draft.options
  extra : next.extra = draft.extra

theorem slots_keep {slot : Slot DocumentDraft} (hslot : slot ∈ slots) {v : Json}
    {set : DocumentDraft → DocumentDraft} (hset : slot.decode v = some set)
    (draft : DocumentDraft) : Keeps slot.name draft (set draft) := by
  rcases mem_slots.1 hslot with rfl | rfl | rfl | rfl | rfl
  all_goals
    obtain ⟨b, -, rfl⟩ := Option.map_eq_some_iff.1 hset
    constructor <;> first | rfl | exact fun h => absurd rfl h | exact fun _ => rfl

section Members
variable {members : List (String × Json)} {draft : DocumentDraft}
  (hfold : members.foldlM (Slot.step slots keep) {} = some draft)
include hfold

theorem platform_of_foldlM :
    draft.platform = ((lastOf? "platform" members).bind Json.text?).map PlatformSetting.ofText := by
  have hget : draft.platform = (lastOf? "platform" members).elim none fun v =>
      (Json.text? v).map PlatformSetting.ofText :=
    slots_lawful.foldlM_get platformSlot_mem (fun d => d.platform) _
      (fun v set d hset => by
        obtain ⟨s, hs, rfl⟩ := Option.map_eq_some_iff.1 hset
        rw [hs]
        rfl)
      (fun s hs hne v set d hset => (slots_keep hs hset d).platform hne) (fun _ _ _ => rfl) hfold
  rw [hget]
  cases lastOf? "platform" members <;> rfl

end Members

theorem isSome_text?_iff (v : Json) : (Json.text? v).isSome ↔ v.IsText := by
  cases v <;> simp [Json.text?, Json.IsText]

/-- A field takes its values if and only if there is at most one, and a proper one. -/
theorem takes_iff {slot : Slot DocumentDraft} (hslot : slot ∈ slots) {P : Json → Prop}
    (hiff : ∀ v, (slot.decode v).isSome ↔ P v) (values : List Json) :
    slot.Takes (slot.field.isRead {}) values ↔ AtMostOne P values := by
  have hnew : slot.field.isRead {} = false := by
    rcases mem_slots.1 hslot with rfl | rfl | rfl | rfl | rfl <;> rfl
  rw [hnew, Slot.takes_false_iff]
  exact Json.AtMostOne.iff hiff values

/-- The members are those of a document if and only if none is refused. -/
theorem isSome_foldlM_iff (members : List (String × Json)) :
    (members.foldlM (Slot.step slots keep) {}).isSome ↔ Json.DocumentMembers members := by
  have hplatform := takes_iff platformSlot_mem
    (fun v => by rw [platformSlot, Slot.isSome_decode_of, isSome_text?_iff])
    (valuesOf "platform" members)
  have hbuildType := takes_iff buildTypeSlot_mem
    (fun v => by rw [buildTypeSlot, Slot.isSome_decode_of, isSome_text?_iff])
    (valuesOf "build_type" members)
  have hmodules := takes_iff modulesSlot_mem
    (fun v => by
      rw [modulesSlot, Slot.isSome_decode_of, KeyMap.isSome_decode_iff,
        Json.isMapOf_congr ModuleSwitches.isSome_decode_iff])
    (valuesOf "modules" members)
  have hdependencies := takes_iff dependenciesSlot_mem
    (fun v => by
      rw [dependenciesSlot, Slot.isSome_decode_of, KeyMap.isSome_decode_iff,
        Json.isMapOf_congr DependencySwitches.isSome_decode_iff])
    (valuesOf "third_party" members)
  have hoptions := takes_iff optionsSlot_mem (P := Json.IsMapOf fun _ => True)
    (fun v => by
      rw [optionsSlot, Slot.isSome_decode_of, KeyMap.isSome_decode_iff]
      exact Json.isMapOf_congr fun _ => iff_true_intro rfl)
    (valuesOf "cmake_options" members)
  rw [Slot.isSome_foldlM_iff slots_lawful]
  constructor
  · intro h
    exact ⟨hplatform.1 (h platformSlot platformSlot_mem),
      hbuildType.1 (h buildTypeSlot buildTypeSlot_mem),
      hmodules.1 (h modulesSlot modulesSlot_mem),
      hdependencies.1 (h dependenciesSlot dependenciesSlot_mem),
      hoptions.1 (h optionsSlot optionsSlot_mem)⟩
  · intro h slot hslot
    rcases mem_slots.1 hslot with rfl | rfl | rfl | rfl | rfl
    · exact hplatform.2 h.platform
    · exact hbuildType.2 h.buildType
    · exact hmodules.2 h.modules
    · exact hdependencies.2 h.dependencies
    · exact hoptions.2 h.options

end DocumentDraft

open DocumentDraft

namespace Document

/-- What a document is decoded as. -/
def decode : Json → Option Document
  | .object members => (members.foldlM (Slot.step slots keep) {}).map toDocument
  | _ => none

/-- A document is read member by member. -/
theorem reader_object {inner : List Char} {result : Option DocumentDraft}
    (h : ∀ rest, (Json.readObject DocumentDraft.member {} (inner ++ rest)).toOption =
      result.map fun draft => (draft, rest)) :
    Document.reader.Gives ('\x7b' :: inner) (result.map toDocument) := by
  intro before rest hbefore _
  simp only [Document.reader, List.cons_append,
    Json.skipSpaces_blanks_cons hbefore (c := '\x7b') rfl, if_true, Json.except_map_toOption, h rest,
    Option.map_map, Function.comp_def]

theorem reader_refuses {c : Char} (hspace : Json.isSpace c = false) (hobject : c ≠ '\x7b')
    (more : List Char) : Document.reader.Gives (c :: more) none := by
  intro before rest hbefore _
  simp only [Document.reader, List.cons_append, Json.skipSpaces_blanks_cons hbefore hspace, hobject,
    if_false]
  rfl

theorem reader_decodes : Document.reader.Decodes Json.deepest decode := by
  intro text v hspelled
  cases hspelled with
  | positive hparts =>
    obtain ⟨c, more, rfl, hc⟩ := hparts.exists_digit
    exact reader_refuses (Json.isSpace_of_isDigit hc) (Decimal.ne_of_isDigit hc rfl) more
  | @object _ inner _ hinner hspaced hitems =>
    refine reader_object fun rest => ?_
    have hread := Json.readObject_decodes member_follows hspaced hitems {} hinner rest
    simpa only [List.append_assoc, List.cons_append, List.nil_append] using hread
  | _ => exact reader_refuses rfl (by decide) _

theorem isSome_decode_iff (v : Json) : (decode v).isSome ↔ v.IsDocument := by
  cases v with
  | object members =>
    rw [decode, Option.isSome_map, DocumentDraft.isSome_foldlM_iff]
    exact ⟨fun h => ⟨members, rfl, h⟩, fun ⟨_, heq, h⟩ => by cases heq; exact h⟩
  | _ => exact iff_of_false (by simp [decode]) fun ⟨_, heq, _⟩ => by cases heq

/-- A text that spells a value is read as what the value is decoded as. -/
theorem read_spelled {before text after : List Char} {v : Json} (hbefore : AllSpaces before)
    (hspelled : Spells Json.deepest text v) (hafter : AllSpaces after) :
    (Document.read (String.ofList (before ++ (text ++ after)))).toOption = decode v := by
  rw [Document.read, String.toList_ofList]
  exact (reader_decodes.gives hspelled).all ⟨before, after, hbefore, hafter, rfl⟩

end Document

end BuildConductor
