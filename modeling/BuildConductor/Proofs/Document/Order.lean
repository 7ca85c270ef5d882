import BuildConductor.Proofs.Document.Schema
import BuildConductor.Proofs.Json.Order
import BuildConductor.Proofs.Plan.Agreement

/-! The order of members does not matter.

An entry, a map and a document are read by one step for each member, and members of
different keys set different parts of what is read: that is all their readers need to be
blind to order (`Field.record_orderBlind`, `KeyMap.reader_orderBlind`,
`Document.reader_orderBlind`). An entry may be a list as well; there the place of an item
says which switch it is, and no order of members changes it. `parse_reordered` puts this
together for two whole texts. -/
namespace BuildConductor

open Json (Reader Tree Branch KeyedBranch Written Assignment AllSpaces)

/-! ### Fields -/

namespace Field
variable {σ : Type}

/-- Members that are looked up among fields, and otherwise set what their key says. -/
def assignment (fields : List (Field σ)) (otherwise : String → Reader (σ → σ)) :
    Assignment σ where
  refused key state :=
    (fields.find? fun field => field.name == key).any fun field => field.isRead state
  setter key :=
    ((fields.find? fun field => field.name == key).map Field.reader).getD (otherwise key)

section Lookup
variable {fields : List (Field σ)} {otherwise : String → Reader (σ → σ)} {key : String}

theorem assignment_member_some {field : Field σ}
    (hfind : (fields.find? fun field => field.name == key) = some field) (state : σ) :
    (assignment fields otherwise).member state key =
      if field.isRead state then none else some (field.reader.map fun set => set state) := by
  simp only [Assignment.member, assignment, hfind, Option.any_some, Option.map_some,
    Option.getD_some]

theorem assignment_member_none (hfind : (fields.find? fun field => field.name == key) = none)
    (state : σ) :
    (assignment fields otherwise).member state key =
      some ((otherwise key).map fun set => set state) := by
  simp only [Assignment.member, assignment, hfind, Option.any_none, Option.map_none,
    Option.getD_none, Bool.false_eq_true, if_false]

end Lookup

/-- Members that no field has the name of are passed over. -/
theorem assignment_skipped (fields : List (Field σ)) :
    (assignment fields fun _ => Json.skipped.map fun _ => id).member = member fields := by
  funext state key
  cases hfind : fields.find? fun field => field.name == key with
  | none =>
    rw [assignment_member_none hfind, Reader.map_map]
    simp only [member, hfind, id]
  | some field =>
    rw [assignment_member_some hfind]
    simp only [member, hfind]

/-- Whether the members of fields, and all others, set what their keys may set. -/
structure Independent (fields : List (Field σ)) (otherwise : String → Reader (σ → σ))
    (Sets : String → (σ → σ) → Prop) : Prop where
  blind : ∀ field ∈ fields, field.reader.OrderBlind
  yields : ∀ field ∈ fields, field.reader.Yields (Sets field.name)
  otherBlind : ∀ key, (otherwise key).OrderBlind
  otherYields : ∀ key, (∀ field ∈ fields, field.name ≠ key) → (otherwise key).Yields (Sets key)
  kept : ∀ {key set}, Sets key set → ∀ field ∈ fields, field.name ≠ key → ∀ state,
    field.isRead (set state) = field.isRead state
  comm : ∀ {key other set set'}, key ≠ other → Sets key set → Sets other set' → ∀ state,
    set' (set state) = set (set' state)

theorem assignment_independent {fields : List (Field σ)} {otherwise : String → Reader (σ → σ)}
    {Sets : String → (σ → σ) → Prop} (h : Independent fields otherwise Sets) :
    (assignment fields otherwise).Independent Sets where
  blind key := by
    simp only [assignment]
    cases hfind : fields.find? fun field => field.name == key with
    | none => exact h.otherBlind key
    | some field => exact h.blind field (List.mem_of_find?_eq_some hfind)
  yields key := by
    simp only [assignment]
    cases hfind : fields.find? fun field => field.name == key with
    | none =>
      exact h.otherYields key fun field hfield => by
        simpa using List.find?_eq_none.1 hfind field hfield
    | some field =>
      have hname : field.name = key := by simpa using List.find?_some hfind
      exact hname ▸ h.yields field (List.mem_of_find?_eq_some hfind)
  kept {key other set} hne hset state := by
    simp only [assignment]
    cases hfind : fields.find? fun field => field.name == other with
    | none => rfl
    | some field =>
      have hname : field.name = other := by simpa using List.find?_some hfind
      exact h.kept hset field (List.mem_of_find?_eq_some hfind) (hname ▸ hne.symm) state
  comm := h.comm

/-! ### Records -/

/-- The items of a list take the same step, in whatever order their own members are
written. -/
theorem exists_lists {fields : List (Field σ)} (hfields : ∀ field ∈ fields, field.reader.OrderBlind)
    {items : List Tree} (hitems : ∀ item ∈ items, item.Unrepeated) :
    ∃ step, ∀ branches, List.Forall₂ Branch.Renders branches items →
      Lists fields (branches.map Branch.written) step := by
  induction items generalizing fields with
  | nil =>
    refine ⟨some, fun branches hbranches => ?_⟩
    cases hbranches
    exact .done fields
  | cons item items ih =>
    cases fields with
    | nil =>
      refine ⟨fun _ => none, fun branches hbranches => ?_⟩
      cases hbranches
      exact .excess _ _
    | cons field fields =>
      rw [List.forall_mem_cons] at hfields hitems
      obtain ⟨result, hresult⟩ := hfields.1 item hitems.1
      obtain ⟨step, hstep⟩ := ih hfields.2 hitems.2
      refine ⟨fun state => result.bind fun set => step (set state), fun branches hbranches => ?_⟩
      cases hbranches with
      | cons hbranch hbranches => exact .item (hbranch.givesItem hresult) (hstep _ hbranches)

/-- A record is read the same in every order of its members. -/
theorem record_orderBlind (wanted : Json.Wanted) {fields : List (Field σ)} (hne : fields ≠ [])
    {Sets : String → (σ → σ) → Prop}
    (h : Independent fields (fun _ => Json.skipped.map fun _ => id) Sets) (start : σ) :
    (record wanted fields start).OrderBlind := by
  refine Reader.orderBlind_of_kinds (fun text htext => ?_) (fun items hitems => ?_)
    fun members hmembers => ?_
  · obtain ⟨c, more, rfl, hspace, -, hlist, hobject⟩ := htext.starts
    exact ⟨none, record_refuses wanted fields start hspace hlist hobject more⟩
  · obtain ⟨step, hstep⟩ := exists_lists h.blind hitems
    refine ⟨step start, fun other text hother hwritten => ?_⟩
    obtain ⟨blanks, branches, hblanks, rfl, hrenders⟩ := hwritten.of_array hother
    exact record_list wanted (hstep branches hrenders) hne start hblanks
  · obtain ⟨result, hresult⟩ := (assignment_independent h).judges hmembers start
    rw [assignment_skipped] at hresult
    refine ⟨result, fun other text hother hwritten => ?_⟩
    obtain ⟨inner, rfl, hread⟩ := hresult other text hother hwritten
    exact record_object wanted hread

end Field

/-! ### Switches -/

namespace SwitchDraft

/-- What a member of a key may set of a draft. -/
inductive Sets : String → (SwitchDraft → SwitchDraft) → Prop
  | enabled (b : Bool) : Sets "enabled" fun d => {d with enabled := some b}
  | tests (b : Option Bool) : Sets "tests" fun d => {d with tests := some b}
  | examples (b : Option Bool) : Sets "examples" fun d => {d with examples := some b}
  | other (key : String) : Sets key id

theorem Sets.comm {key other : String} {set set' : SwitchDraft → SwitchDraft} (hne : key ≠ other)
    (h : Sets key set) (h' : Sets other set') (draft : SwitchDraft) :
    set' (set draft) = set (set' draft) := by
  cases h <;> cases h' <;> first | rfl | exact absurd rfl hne

theorem fields_independent (nullable : Bool) {fields : List (Field SwitchDraft)}
    (hfields : fields.Perm [enabledField, testsField (switchReader nullable),
      examplesField (switchReader nullable)]) :
    Field.Independent fields (fun _ => Json.skipped.map fun _ => id) Sets := by
  have hmem {field : Field SwitchDraft} : field ∈ fields ↔ field = enabledField ∨
      field = testsField (switchReader nullable) ∨
      field = examplesField (switchReader nullable) := by
    rw [hfields.mem_iff]
    simp
  have hswitch : (switchReader nullable).OrderBlind := by
    cases nullable with
    | true => exact Json.optional_boolean_orderBlind
    | false => exact Json.boolean_orderBlind.map some
  constructor
  case blind =>
    intro field hfield
    rcases hmem.1 hfield with rfl | rfl | rfl
    · exact Json.boolean_orderBlind.map _
    · exact hswitch.map _
    · exact hswitch.map _
  case yields =>
    intro field hfield
    rcases hmem.1 hfield with rfl | rfl | rfl
    · exact Json.boolean.yields_true.map fun b _ => .enabled b
    · exact (switchReader nullable).yields_true.map fun b _ => .tests b
    · exact (switchReader nullable).yields_true.map fun b _ => .examples b
  case otherBlind => exact fun _ => Json.skipped_orderBlind.map _
  case otherYields => exact fun key _ => Json.skipped.yields_true.map fun _ _ => .other key
  case kept =>
    intro key set hset field hfield hne draft
    rcases hmem.1 hfield with rfl | rfl | rfl <;> cases hset <;>
      first | rfl | exact absurd rfl hne
  case comm => exact fun hne h h' draft => h.comm hne h' draft

end SwitchDraft

theorem ModuleSwitches.reader_orderBlind : ModuleSwitches.reader.OrderBlind :=
  (Field.record_orderBlind .moduleSwitches (List.cons_ne_nil _ _)
    (SwitchDraft.fields_independent false (.refl _)) {}).map SwitchDraft.toModule

theorem DependencySwitches.reader_orderBlind : DependencySwitches.reader.OrderBlind :=
  (Field.record_orderBlind .dependencySwitches (List.cons_ne_nil _ _)
    (SwitchDraft.fields_independent true ((List.Perm.swap _ _ _).cons _)) {}).map
      SwitchDraft.toDependency

/-! ### Maps -/

/-- A map is read the same in every order of its members. -/
theorem KeyMap.reader_orderBlind {α : Type} {item : Reader α} (h : item.OrderBlind) :
    (KeyMap.reader item).OrderBlind := by
  refine Reader.orderBlind_of_objects (KeyMap.reader_refuses item) fun members hmembers => ?_
  have hindependent :
      (Assignment.inserting item fun key v (m : KeyMap α) => m.insert key v).Independent _ :=
    Assignment.inserting_independent h fun hne v w m => KeyMap.insert_comm hne v w m
  obtain ⟨result, hresult⟩ := hindependent.judges hmembers .empty
  rw [Assignment.inserting_member] at hresult
  refine ⟨result, fun other text hother hwritten => ?_⟩
  obtain ⟨inner, rfl, hread⟩ := hresult other text hother hwritten
  exact KeyMap.reader_object hread

/-! ### Documents -/

namespace DocumentDraft

/-- What a member of a key may set of a draft. -/
inductive Sets : String → (DocumentDraft → DocumentDraft) → Prop
  | platform (s : String) : Sets "platform" fun d => {d with platform := some (.ofText s)}
  | buildType (s : String) : Sets "build_type" fun d => {d with buildType := some s}
  | modules (m : KeyMap ModuleSwitches) : Sets "modules" fun d => {d with modules := some m}
  | dependencies (m : KeyMap DependencySwitches) :
    Sets "third_party" fun d => {d with dependencies := some m}
  | options (m : KeyMap OptionValue) : Sets "cmake_options" fun d => {d with options := some m}
  | extra (key : String) (v : Json) : Sets key fun d => {d with extra := d.extra.insert key v}

theorem Sets.comm {key other : String} {set set' : DocumentDraft → DocumentDraft}
    (hne : key ≠ other) (h : Sets key set) (h' : Sets other set') (draft : DocumentDraft) :
    set' (set draft) = set (set' draft) := by
  cases h with
  | extra _ v =>
    cases h' with
    | extra _ w => simp only [KeyMap.insert_comm hne]
    | _ => rfl
  | _ => cases h' <;> first | rfl | exact absurd rfl hne

/-- Members that mean nothing are kept under their keys. -/
def extraSetter (key : String) : Reader (DocumentDraft → DocumentDraft) :=
  (Json.value (Json.deepest - 1)).map fun v d => {d with extra := d.extra.insert key v}

theorem assignment_extra : (Field.assignment fields extraSetter).member = member := by
  funext draft key
  cases hfind : fields.find? fun field => field.name == key with
  | none =>
    rw [Field.assignment_member_none hfind, extraSetter, Reader.map_map]
    simp only [member, hfind]
  | some field =>
    rw [Field.assignment_member_some hfind]
    simp only [member, hfind]

theorem fields_independent : Field.Independent fields extraSetter Sets := by
  have hmem {field : Field DocumentDraft} : field ∈ fields ↔ field = platformField ∨
      field = buildTypeField ∨ field = modulesField ∨ field = dependenciesField ∨
      field = optionsField := by
    simp [fields]
  constructor
  case blind =>
    intro field hfield
    rcases hmem.1 hfield with rfl | rfl | rfl | rfl | rfl
    · exact Json.text_orderBlind.map _
    · exact Json.text_orderBlind.map _
    · exact (KeyMap.reader_orderBlind ModuleSwitches.reader_orderBlind).map _
    · exact (KeyMap.reader_orderBlind DependencySwitches.reader_orderBlind).map _
    · exact (KeyMap.reader_orderBlind ((Json.value_orderBlind _).map OptionValue.ofJson)).map _
  case yields =>
    intro field hfield
    rcases hmem.1 hfield with rfl | rfl | rfl | rfl | rfl
    · exact Json.text.yields_true.map fun s _ => .platform s
    · exact Json.text.yields_true.map fun s _ => .buildType s
    · exact (KeyMap.reader ModuleSwitches.reader).yields_true.map fun m _ => .modules m
    · exact (KeyMap.reader DependencySwitches.reader).yields_true.map fun m _ => .dependencies m
    · exact (KeyMap.reader _).yields_true.map fun m _ => .options m
  case otherBlind => exact fun _ => (Json.value_orderBlind _).map _
  case otherYields => exact fun key _ => (Json.value _).yields_true.map fun v _ => .extra key v
  case kept =>
    intro key set hset field hfield hne draft
    rcases hmem.1 hfield with rfl | rfl | rfl | rfl | rfl <;> cases hset <;>
      first | rfl | exact absurd rfl hne
  case comm => exact fun hne h h' draft => h.comm hne h' draft

end DocumentDraft

namespace Document

/-- A document is read the same in every order of its members, at any depth. -/
theorem reader_orderBlind : Document.reader.OrderBlind := by
  refine Reader.orderBlind_of_objects reader_refuses fun members hmembers => ?_
  have hindependent := Field.assignment_independent DocumentDraft.fields_independent
  obtain ⟨result, hresult⟩ := hindependent.judges hmembers {}
  rw [DocumentDraft.assignment_extra] at hresult
  refine ⟨result.map DocumentDraft.toDocument, fun other text hother hwritten => ?_⟩
  obtain ⟨inner, rfl, hread⟩ := hresult other text hother hwritten
  exact reader_object hread

/-- Texts that differ in nothing but the order of members hold the same document, or
none. -/
theorem read_reordered {tree other : Tree} {text text' : String} (hunrepeated : tree.Unrepeated)
    (hreordered : tree.Reordered other) (htext : tree.HasText text) (htext' : other.HasText text') :
    (Document.read text').toOption = (Document.read text).toOption := by
  obtain ⟨result, hjudges⟩ := reader_orderBlind tree hunrepeated
  obtain ⟨body, hwritten, hframes⟩ := htext
  obtain ⟨body', hwritten', hframes'⟩ := htext'
  have hread := (hjudges tree body hwritten.reordered hwritten).all hframes
  have hread' := (hjudges other body' hreordered hwritten').all hframes'
  exact hread'.trans hread.symm

/-- The order of members does not matter: two texts that differ in nothing else, at any
depth, are both documents or neither is; and if they are, the documents are equal, are
saved as the same text and are planned as the same commands, whose definitions come in
the order of their keys. -/
theorem parse_reordered {tree other : Tree} {text text' : String}
    (hunrepeated : tree.Unrepeated) (hreordered : tree.Reordered other)
    (htext : tree.HasText text) (htext' : other.HasText text') (path path' : Path) :
    ((∃ doc, parse text path = .ok doc) ↔ ∃ doc, parse text' path' = .ok doc) ∧
      ∀ doc doc', parse text path = .ok doc → parse text' path' = .ok doc' →
        doc' = doc ∧ doc'.write = doc.write ∧
        ∀ settings, doc'.plan settings = doc.plan settings ∧
          ∃ configure definitions, (doc.plan settings).step? .configure = some configure ∧
            withoutOperands configure.command.args =
              definition buildTypeOption doc.effectiveBuildType :: definitions ∧
            doc.Emits definitions := by
  have hsame := read_reordered hunrepeated hreordered htext htext'
  have hparse (doc : Document) : parse text path = .ok doc ↔ parse text' path' = .ok doc := by
    rw [parse_eq_ok_iff, parse_eq_ok_iff]
    exact ⟨fun h => except_eq_ok_of_toOption (by rw [hsame, h]; rfl),
      fun h => except_eq_ok_of_toOption (by rw [← hsame, h]; rfl)⟩
  refine ⟨exists_congr hparse, fun doc doc' hdoc hdoc' => ?_⟩
  obtain rfl : doc = doc' := Except.ok.inj (((hparse doc).1 hdoc).symm.trans hdoc')
  refine ⟨rfl, rfl, fun settings => ⟨rfl, _, doc.definitions, doc.plan_configure settings, ?_,
    doc.emits_definitions⟩⟩
  exact settings.withoutOperands_configureCommand doc

/-! ### A text in two orders -/

/-- A scalar within brackets. -/
def scalarBranch (text : String) : Branch :=
  ⟨[], text.toList, [], .scalar text.toList⟩

/-- Two members, in one order or the other. -/
def pairMembers (swapped : Bool) (key : String) (branch : Branch) (other : String)
    (branch' : Branch) : List KeyedBranch :=
  let first := ⟨[], key.toList, [' '], branch⟩
  let second := ⟨['\n'], other.toList, [], branch'⟩
  if swapped then [second, first] else [first, second]

/-- An object of two members. -/
def pairBranch (swapped : Bool) (key : String) (branch : Branch) (other : String)
    (branch' : Branch) : Branch :=
  let members := pairMembers swapped key branch other branch'
  ⟨[], '\x7b' :: (Json.separated [] (members.map KeyedBranch.written) ++ ['\x7d']), [],
    .object (members.map KeyedBranch.keyed)⟩

/-- Switches of modules, and a member that means nothing. -/
def switchesBranch (swapped : Bool) : Branch :=
  let core := pairBranch swapped "note" (scalarBranch "1e999") "tests" (scalarBranch "false")
  let base := pairBranch swapped "examples" (scalarBranch "false") "x" (scalarBranch "null")
  let extra := pairBranch swapped "b" (scalarBranch "null") "a" (scalarBranch "true")
  pairBranch swapped "modules" (pairBranch swapped "core" core "base" base) "extra" extra

def switchesText (swapped : Bool) : String :=
  String.ofList (switchesBranch swapped).text

/-- The document that it holds, in either order. -/
def switchesDocument : Document :=
  {Document.empty with
    modules := .ofList [("base", {examples := false}), ("core", {tests := false})]
    extra := .ofList [("extra", .object [("a", .bool true), ("b", .null)])]}

theorem scalarBranch_renders {text : String} (h : Json.ScalarText text.toList) :
    (scalarBranch text).Renders (scalarBranch text).tree :=
  ⟨⟨List.forall_mem_nil _, List.forall_mem_nil _⟩, .scalar h, .scalar _⟩

theorem pairBranch_renders (swapped : Bool) {key other : String}
    {branch branch' start start' : Branch}
    (hkey : Json.StringBody key.toList) (hother : Json.StringBody other.toList)
    (h : branch.Renders start.tree) (h' : branch'.Renders start'.tree) :
    (pairBranch swapped key branch other branch').Renders
      (pairBranch false key start other start').tree := by
  have hnone : AllSpaces [] := List.forall_mem_nil _
  have hmembers : ∀ m ∈ pairMembers swapped key branch other branch',
      m.Spaced ∧ Written m.branch.text m.branch.tree := by
    have hfirst : KeyedBranch.Spaced ⟨[], key.toList, [' '], branch⟩ :=
      ⟨hnone, hkey, List.forall_mem_singleton.2 rfl, h.spaced⟩
    have hsecond : KeyedBranch.Spaced ⟨['\n'], other.toList, [], branch'⟩ :=
      ⟨List.forall_mem_singleton.2 rfl, hother, hnone, h'.spaced⟩
    cases swapped with
    | false =>
      exact List.forall_mem_cons.2
        ⟨⟨hfirst, h.written⟩, List.forall_mem_singleton.2 ⟨hsecond, h'.written⟩⟩
    | true =>
      exact List.forall_mem_cons.2
        ⟨⟨hsecond, h'.written⟩, List.forall_mem_singleton.2 ⟨hfirst, h.written⟩⟩
  have hpairs : ∀ pair ∈ [(key.toList, start.tree, branch.tree),
      (other.toList, start'.tree, branch'.tree)], pair.2.1.Reordered pair.2.2 :=
    List.forall_mem_cons.2 ⟨h.reordered, List.forall_mem_singleton.2 h'.reordered⟩
  refine ⟨⟨hnone, hnone⟩, .object hnone (fun m hm => (hmembers m hm).1)
    fun m hm => (hmembers m hm).2, ?_⟩
  cases swapped with
  | false => exact .object hpairs (.refl _)
  | true => exact .object hpairs (.swap _ _ _)

theorem pairBranch_unrepeated {key other : String} {branch branch' : Branch}
    (hkeys : Json.DifferentKeys key.toList other.toList) (h : branch.tree.Unrepeated)
    (h' : branch'.tree.Unrepeated) : (pairBranch false key branch other branch').tree.Unrepeated :=
  .object (List.pairwise_pair.2 hkeys)
    (List.forall_mem_cons.2 ⟨h, List.forall_mem_singleton.2 h'⟩)

theorem switchesBranch_renders (swapped : Bool) :
    (switchesBranch swapped).Renders (switchesBranch false).tree := by
  have hnumber : (scalarBranch "1e999").Renders (scalarBranch "1e999").tree := by
    have hparts : "1e999".toList = ['1'] ++ ([] ++ ['e', '9', '9', '9']) := rfl
    have hwhole : Json.SpellsWhole ['1'] :=
      ⟨List.forall_mem_singleton.2 rfl, by decide, fun h => absurd h (by decide)⟩
    have hexponent : Json.SpellsExponent ['e', '9', '9', '9'] (some (false, ['9', '9', '9'])) :=
      .some (.inl rfl) .none (by simp [Decimal.AllDigits]) (by decide)
    exact scalarBranch_renders (hparts ▸ .positive (.parts hwhole .none hexponent))
  have hnull := scalarBranch_renders Json.ScalarText.null
  have htrue := scalarBranch_renders Json.ScalarText.true
  have hfalse := scalarBranch_renders Json.ScalarText.false
  have hkey (key : String) (h : key.toList.all Json.isPlain = true) :
      Json.StringBody key.toList := .of_plain h
  have hcore := pairBranch_renders swapped (hkey "note" rfl) (hkey "tests" rfl) hnumber hfalse
  have hbase := pairBranch_renders swapped (hkey "examples" rfl) (hkey "x" rfl) hfalse hnull
  have hmodules := pairBranch_renders swapped (hkey "core" rfl) (hkey "base" rfl) hcore hbase
  have hextra := pairBranch_renders swapped (hkey "b" rfl) (hkey "a" rfl) hnull htrue
  exact pairBranch_renders swapped (hkey "modules" rfl) (hkey "extra" rfl) hmodules hextra

theorem switchesBranch_unrepeated : (switchesBranch false).tree.Unrepeated := by
  have hkeys (key other : String)
      (h : (Json.readString (key.toList ++ ['"'])).toOption ≠
        (Json.readString (other.toList ++ ['"'])).toOption) :
      Json.DifferentKeys key.toList other.toList := Json.differentKeys_of_read h
  have hscalar (text : String) : (scalarBranch text).tree.Unrepeated := .scalar _
  have hcore := pairBranch_unrepeated (hkeys "note" "tests" (by decide +kernel))
    (hscalar "1e999") (hscalar "false")
  have hbase := pairBranch_unrepeated (hkeys "examples" "x" (by decide +kernel))
    (hscalar "false") (hscalar "null")
  have hmodules := pairBranch_unrepeated (hkeys "core" "base" (by decide +kernel)) hcore hbase
  have hextra := pairBranch_unrepeated (hkeys "b" "a" (by decide +kernel))
    (hscalar "null") (hscalar "true")
  exact pairBranch_unrepeated (hkeys "modules" "extra" (by decide +kernel)) hmodules hextra

theorem switchesText_hasText (swapped : Bool) :
    (switchesBranch swapped).tree.HasText (switchesText swapped) :=
  ⟨_, (switchesBranch_renders swapped).written, [], [], List.forall_mem_nil _,
    List.forall_mem_nil _, by simp [switchesText]⟩

theorem parse_reordered_switches :
    (switchesBranch false).tree.Unrepeated ∧
      (switchesBranch false).tree.Reordered (switchesBranch true).tree ∧
      (switchesBranch false).tree.HasText (switchesText false) ∧
      (switchesBranch true).tree.HasText (switchesText true) ∧
      parse (switchesText false) ⟨"a.json"⟩ = .ok switchesDocument ∧
      parse (switchesText true) ⟨"b.json"⟩ = .ok switchesDocument := by
  have hunrepeated := switchesBranch_unrepeated
  have hreordered := (switchesBranch_renders true).reordered
  have htext := switchesText_hasText false
  have htext' := switchesText_hasText true
  have hparse : parse (switchesText false) ⟨"a.json"⟩ = .ok switchesDocument :=
    parse_of_toOption (by decide +kernel) ⟨"a.json"⟩
  obtain ⟨hiff, hsame⟩ :=
    parse_reordered hunrepeated hreordered htext htext' ⟨"a.json"⟩ ⟨"b.json"⟩
  obtain ⟨doc, hdoc⟩ := hiff.1 ⟨_, hparse⟩
  obtain ⟨rfl, -⟩ := hsame _ _ hparse hdoc
  exact ⟨hunrepeated, hreordered, htext, htext', hparse, hdoc⟩

end Document

end BuildConductor
