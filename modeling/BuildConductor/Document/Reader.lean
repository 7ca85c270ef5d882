import BuildConductor.Document.Basic
import BuildConductor.Json.Skip

/-! Reading a document.

The members of a document that mean something are read as what they must be; all
others are kept as they are. Such a member may come once only, while in maps the
last value of a key counts. The switches of a module or a dependency may also be
listed in their order without their names. -/
namespace BuildConductor

open Json (Reader Fault)

/-- A member that an object may have once: its name, whether it has been read
already, and how it is read into the state. -/
structure Field (σ : Type) where
  name : String
  isRead : σ → Bool
  reader : Reader (σ → σ)

namespace Field
variable {σ : Type}

/-- The members of an object with these fields; members of other names are passed
over. -/
def member (fields : List (Field σ)) (state : σ) (key : String) : Option (Reader σ) :=
  match fields.find? fun field => field.name == key with
  | some field => if field.isRead state then none else some (field.reader.map fun set => set state)
  | none => some (Json.skipped.map fun _ => state)

/-- The items of a list that gives these fields in order. A list may stop early. -/
def readListed (fields : List (Field σ)) (first : Bool) (state : σ) (cs : List Char) :
    Except Fault (σ × List Char) :=
  match fields with
  | [] => .ok (state, cs)
  | field :: fields =>
    match Json.nextItem? first cs with
    | .error fault => .error fault
    | .ok none => .ok (state, cs)
    | .ok (some start) =>
      match field.reader.read start with
      | .error fault => .error fault
      | .ok (set, rest) => readListed fields false (set state) rest

theorem readListed_length {fields : List (Field σ)} {first : Bool} {state result : σ}
    {cs rest : List Char} (h : readListed fields first state cs = .ok (result, rest)) :
    rest.length ≤ cs.length := by
  induction fields generalizing first state cs with
  | nil =>
    cases h
    exact Nat.le_refl _
  | cons field fields ih =>
    unfold readListed at h
    split at h
    · cases h
    · cases h
      exact Nat.le_refl _
    · rename_i hnext
      split at h
      · cases h
      · rename_i hread
        have := Json.nextItem?_length hnext
        have := field.reader.shortens hread
        have := ih h
        omega

/-- A list or an object that gives the fields, each at most once. -/
def record (wanted : Json.Wanted) (fields : List (Field σ)) (start : σ) : Reader σ where
  read cs :=
    match Json.skipSpaces cs with
    | [] => .error ⟨.endInValue, [], 0⟩
    | c :: rest =>
      if c = '[' then
        match readListed fields true start rest with
        | .error fault => .error fault
        | .ok (state, rest) => (Json.endList rest).map fun rest => (state, rest)
      else if c = '\x7b' then Json.readObject (member fields) start rest
      else .error (Json.wrongType wanted (c :: rest))
  shortens {cs rest a} h := by
    have hspaces := Json.length_skipSpaces_le cs
    split at h
    · cases h
    · rename_i heq
      rw [heq, List.length_cons] at hspaces
      split at h
      · split at h
        · cases h
        · rename_i hlisted
          obtain ⟨r, ha, rfl⟩ := Json.length_of_map_ok h
          have hend := Nat.lt_of_lt_of_le (Json.endList_length ha) (readListed_length hlisted)
          exact Nat.lt_trans hend hspaces
      · split at h
        · exact Nat.lt_trans (Json.readObject_length h) hspaces
        · cases h

end Field

/-! ### Switches -/

/-- The switches read so far. A switch may be read as nothing. -/
structure SwitchDraft where
  enabled : Option Bool := none
  tests : Option (Option Bool) := none
  examples : Option (Option Bool) := none

namespace SwitchDraft

def enabledField : Field SwitchDraft :=
  ⟨"enabled", fun d => d.enabled.isSome, Json.boolean.map fun b d => {d with enabled := some b}⟩

def testsField (reader : Reader (Option Bool)) : Field SwitchDraft :=
  ⟨"tests", fun d => d.tests.isSome, reader.map fun b d => {d with tests := some b}⟩

def examplesField (reader : Reader (Option Bool)) : Field SwitchDraft :=
  ⟨"examples", fun d => d.examples.isSome, reader.map fun b d => {d with examples := some b}⟩

def toModule (d : SwitchDraft) : ModuleSwitches :=
  ⟨d.enabled.getD true, d.tests.join.getD true, d.examples.join.getD true⟩

def toDependency (d : SwitchDraft) : DependencySwitches :=
  ⟨d.enabled.getD true, d.examples.join, d.tests.join⟩

end SwitchDraft

open SwitchDraft in
/-- The switches of a module. -/
def ModuleSwitches.reader : Reader ModuleSwitches :=
  let switch := Json.boolean.map some
  (Field.record .moduleSwitches [enabledField, testsField switch, examplesField switch] {}).map
    SwitchDraft.toModule

open SwitchDraft in
/-- The switches of a dependency. -/
def DependencySwitches.reader : Reader DependencySwitches :=
  let switch := Json.optional Json.boolean
  (Field.record .dependencySwitches [enabledField, examplesField switch, testsField switch] {}).map
    SwitchDraft.toDependency

/-! ### Maps -/

/-- An object whose members are all of one kind; the last value of a key counts. -/
def KeyMap.reader {α : Type} (item : Reader α) : Reader (KeyMap α) where
  read cs :=
    match Json.skipSpaces cs with
    | [] => .error ⟨.endInValue, [], 0⟩
    | c :: rest =>
      if c = '\x7b' then
        Json.readObject (fun m key => some (item.map fun value => m.insert key value)) .empty rest
      else .error (Json.wrongType .map (c :: rest))
  shortens {cs rest a} h := by
    have hspaces := Json.length_skipSpaces_le cs
    split at h
    · cases h
    · rename_i heq
      rw [heq, List.length_cons] at hspaces
      split at h
      · exact Nat.lt_trans (Json.readObject_length h) hspaces
      · cases h

/-! ### The document -/

/-- What has been read of a document so far. -/
structure DocumentDraft where
  platform : Option PlatformSetting := none
  buildType : Option String := none
  modules : Option (KeyMap ModuleSwitches) := none
  dependencies : Option (KeyMap DependencySwitches) := none
  options : Option (KeyMap OptionValue) := none
  extra : KeyMap Json := .empty

namespace DocumentDraft

def platformField : Field DocumentDraft :=
  ⟨"platform", fun d => d.platform.isSome,
    Json.text.map fun s d => {d with platform := some (.ofText s)}⟩

def buildTypeField : Field DocumentDraft :=
  ⟨"build_type", fun d => d.buildType.isSome, Json.text.map fun s d => {d with buildType := some s}⟩

def modulesField : Field DocumentDraft :=
  ⟨"modules", fun d => d.modules.isSome,
    (KeyMap.reader ModuleSwitches.reader).map fun m d => {d with modules := some m}⟩

def dependenciesField : Field DocumentDraft :=
  ⟨"third_party", fun d => d.dependencies.isSome,
    (KeyMap.reader DependencySwitches.reader).map fun m d => {d with dependencies := some m}⟩

/-- Options may nest brackets as deep as what the document and the map around
them leave. -/
def optionsField : Field DocumentDraft :=
  ⟨"cmake_options", fun d => d.options.isSome,
    (KeyMap.reader ((Json.value (Json.deepest - 2)).map OptionValue.ofJson)).map
      fun m d => {d with options := some m}⟩

def fields : List (Field DocumentDraft) :=
  [platformField, buildTypeField, modulesField, dependenciesField, optionsField]

/-- The members of a document. -/
def member (draft : DocumentDraft) (key : String) : Option (Reader DocumentDraft) :=
  match fields.find? fun field => field.name == key with
  | some field => if field.isRead draft then none else some (field.reader.map fun set => set draft)
  | none =>
    some ((Json.value (Json.deepest - 1)).map
      fun value => {draft with extra := draft.extra.insert key value})

/-- The document, with defaults for what was not said. -/
def toDocument (draft : DocumentDraft) : Document where
  platform := draft.platform.getD .auto
  buildType := draft.buildType.getD BuildType.release.name
  modules := draft.modules.getD .empty
  dependencies := draft.dependencies.getD .empty
  options := draft.options.getD .empty
  extra := draft.extra

end DocumentDraft

/-- A document is an object. -/
def Document.reader : Reader Document where
  read cs :=
    match Json.skipSpaces cs with
    | [] => .error ⟨.endInValue, [], 0⟩
    | c :: rest =>
      if c = '\x7b' then
        (Json.readObject DocumentDraft.member {} rest).map fun r => (r.1.toDocument, r.2)
      else .error (Json.wrongType .document (c :: rest))
  shortens {cs rest a} h := by
    have hspaces := Json.length_skipSpaces_le cs
    split at h
    · cases h
    · rename_i heq
      rw [heq, List.length_cons] at hspaces
      split at h
      · obtain ⟨⟨result, rest⟩, ha, rfl⟩ := Json.length_of_map_ok h
        exact Nat.lt_trans (Json.readObject_length ha) hspaces
      · cases h

namespace Document

/-- The document that a text holds. -/
def read (text : String) : Except Fault Document :=
  Json.readAll Document.reader text.toList

end Document

/-- The option value that a text holds. -/
def OptionValue.read (text : String) : Except Fault OptionValue :=
  Json.readAll ((Json.value Json.deepest).map OptionValue.ofJson) text.toList

end BuildConductor
