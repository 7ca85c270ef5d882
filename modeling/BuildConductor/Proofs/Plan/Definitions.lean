import BuildConductor.Plan

/-! What the build tool is told by its arguments.

The tool reads a flag from the last argument that defines it. `Sets` says which names
of definitions define a flag: the flag itself, and a name that goes on behind it with
an equals sign, as `FLAG=x` does. What a document defines comes from its options, its
libraries and its modules; each is looked through once for all flags. -/
namespace BuildConductor

/-! ### Reading arguments -/

/-- The value that an argument gives to a flag, if it defines it. -/
def definedValue? (flag arg : String) : Option String :=
  let start := (definition flag "").toList
  if start <+: arg.toList then some (String.ofList (arg.toList.drop start.length)) else none

/-- The value of the last definition of a flag. -/
def lastDefined? (flag : String) (args : List String) : Option String :=
  (args.filterMap (definedValue? flag)).getLast?

/-- What the build tool takes an operand after when it configures. -/
def operandFlags : List String := ["-S", "-B", "-G"]

/-- The arguments without those that only go with an operand, and their operands. -/
def withoutOperands : List String → List String
  | [] => []
  | [arg] => [arg]
  | arg :: operand :: rest =>
    if arg ∈ operandFlags then withoutOperands rest else arg :: withoutOperands (operand :: rest)

/-- The operand of a flag, among arguments that come in pairs of a flag and an operand. -/
def operandOf? (flag : String) : List String → Option String
  | name :: operand :: rest => if name = flag then some operand else operandOf? flag rest
  | _ => none

/-! ### Names that define a flag -/

/-- Whether a name goes on behind a flag with an equals sign. -/
def Extends (flag name : String) : Prop :=
  flag.toList ++ ['='] <+: name.toList

instance (flag name : String) : Decidable (Extends flag name) :=
  inferInstanceAs (Decidable (flag.toList ++ ['='] <+: name.toList))

/-- Whether a definition under a name can be read as one of a flag. -/
def Sets (flag name : String) : Prop :=
  name = flag ∨ Extends flag name

instance (flag name : String) : Decidable (Sets flag name) :=
  inferInstanceAs (Decidable (name = flag ∨ Extends flag name))

/-- A name that extends a flag comes after it. -/
theorem Extends.lt {flag name : String} (h : Extends flag name) : flag < name := by
  obtain ⟨more, hmore⟩ := h
  have hlonger : flag.toList ++ [] < flag.toList ++ (['='] ++ more) :=
    List.append_left_lt (List.nil_lt_cons _ _)
  show flag.toList < name.toList
  rwa [List.append_nil, ← List.append_assoc, hmore] at hlonger

theorem toList_definition (flag value : String) :
    (definition flag value).toList = '-' :: 'D' :: (flag.toList ++ '=' :: value.toList) := by
  simp [definition]

/-- What a name that extends a flag is defined as, is told of the flag behind an equals sign. -/
theorem Extends.definition_eq {flag name : String} (h : Extends flag name) (value : String) :
    ∃ more, definition name value = definition flag (more ++ "=" ++ value) := by
  obtain ⟨more, hmore⟩ := h
  refine ⟨String.ofList more, String.toList_inj.1 ?_⟩
  rw [toList_definition, toList_definition, ← hmore]
  simp

/-- An argument gives a flag a value exactly if it is that definition. -/
theorem definedValue?_eq_some {flag arg value : String} :
    definedValue? flag arg = some value ↔ arg = definition flag value := by
  have hsplit (value : String) :
      (definition flag value).toList = (definition flag "").toList ++ value.toList := by
    simp [definition]
  simp only [definedValue?, Option.ite_none_right_eq_some, Option.some.injEq]
  constructor
  · rintro ⟨⟨tail, htail⟩, hvalue⟩
    rw [← htail, List.drop_left] at hvalue
    rw [← String.toList_inj, ← htail, hsplit value, ← hvalue, String.toList_ofList]
  · rintro rfl
    rw [hsplit value, List.drop_left, String.ofList_toList]
    exact ⟨List.prefix_append _ _, rfl⟩

theorem lastDefined?_append_cons (flag value : String) (before after : List String) :
    lastDefined? flag (before ++ definition flag value :: after) =
      some ((lastDefined? flag after).getD value) := by
  have hself : definedValue? flag (definition flag value) = some value :=
    definedValue?_eq_some.2 rfl
  rw [lastDefined?, List.filterMap_append, List.filterMap_cons, hself, List.getLast?_append,
    List.getLast?_cons]
  rfl

/-- A definition of another name is none of a flag, unless the name extends it. -/
theorem definedValue?_definition {flag name : String} (hplain : '=' ∉ flag.toList)
    (hname : ¬Sets flag name) (value : String) :
    definedValue? flag (definition name value) = none := by
  refine Option.eq_none_iff_forall_ne_some.2 fun other hother => hname ?_
  have hequal := congrArg String.toList (definedValue?_eq_some.1 hother)
  rw [toList_definition, toList_definition] at hequal
  have hequal := List.tail_eq_of_cons_eq (List.tail_eq_of_cons_eq hequal)
  rcases List.append_eq_append_iff.1 hequal with ⟨more, hflag, hrest⟩ | ⟨more, hname, hrest⟩
  · -- The flag is the longer of the two: it would hold the equals sign.
    cases more with
    | nil => exact .inl (String.toList_inj.1 (by simpa using hflag.symm))
    | cons c more =>
      obtain ⟨rfl, -⟩ := List.cons.inj hrest
      exact absurd (hflag ▸ List.mem_append_right _ (List.mem_cons_self ..)) hplain
  · cases more with
    | nil => exact .inl (String.toList_inj.1 (by simpa using hname))
    | cons c more =>
      obtain ⟨rfl, -⟩ := List.cons.inj hrest
      exact .inr ⟨more, by simp [hname]⟩

/-- Names that begin differently do not set a flag. -/
theorem not_sets_of_start {flag start : String} (hstart : ¬start.toList <+: flag.toList ++ ['='])
    (hflag : ¬flag.toList ++ ['='] <+: start.toList) (rest : String) :
    ¬Sets flag (start ++ rest) := by
  have hname : (start ++ rest).toList = start.toList ++ rest.toList := String.toList_append ..
  rintro (heq | hext)
  · refine hstart ⟨rest.toList ++ ['='], ?_⟩
    rw [← heq, hname, List.append_assoc]
  · rw [Extends, hname] at hext
    rcases List.prefix_or_prefix_of_prefix hext (List.prefix_append start.toList rest.toList)
      with h | h
    · exact hflag h
    · exact hstart h

/-- The flag of a library sets none that does not begin like it. -/
theorem dependencyFlag_not_sets {flag : String}
    (hstart : ¬(dependencyFlag "").toList <+: flag.toList ++ ['='])
    (hflag : ¬flag.toList ++ ['='] <+: (dependencyFlag "").toList) (name : String) :
    ¬Sets flag (dependencyFlag name) := by
  have hname : dependencyFlag name = dependencyFlag "" ++ Text.upper name := by
    simp [dependencyFlag, Text.upper, Text.upperList]
  rw [hname]
  exact not_sets_of_start hstart hflag _

/-! ### What a document defines -/

section Flag
variable {flag : String} (hplain : '=' ∉ flag.toList)
include hplain

theorem definedValue?_definition_eq_none_iff {name value : String} :
    definedValue? flag (definition name value) = none ↔ ¬Sets flag name := by
  refine ⟨fun hnone hsets => ?_, fun hname => definedValue?_definition hplain hname value⟩
  rcases hsets with rfl | ⟨more, hmore⟩
  · rw [definedValue?_eq_some.2 rfl] at hnone
    cases hnone
  · have hsame :
        definition name value = definition flag (String.ofList (more ++ '=' :: value.toList)) := by
      rw [← String.toList_inj, toList_definition, toList_definition, ← hmore]
      simp
    rw [definedValue?_eq_some.2 hsame] at hnone
    cases hnone

/-- Definitions say nothing of a flag exactly where none of their names sets it. -/
theorem forall_definedValue?_eq_none_iff {α : Type} {items : List α} {name value : α → String} :
    (∀ arg ∈ items.map fun item => definition (name item) (value item),
        definedValue? flag arg = none) ↔ ∀ item ∈ items, ¬Sets flag (name item) := by
  rw [List.forall_mem_map]
  exact forall₂_congr fun _ _ => definedValue?_definition_eq_none_iff hplain

/-- Definitions of other names say nothing of a flag. -/
theorem filterMap_definitions_eq_nil {α : Type} {items : List α} {name value : α → String}
    (h : ∀ item ∈ items, ¬Sets flag (name item)) :
    (items.map fun item => definition (name item) (value item)).filterMap (definedValue? flag) =
      [] :=
  List.filterMap_eq_nil_iff.2 ((forall_definedValue?_eq_none_iff hplain).2 h)

/-- The entries of a map define a flag at most once, unless one of its keys extends it. -/
theorem filterMap_definitions {α : Type} (m : KeyMap α) (value : α → String)
    (h : ∀ entry ∈ m.entries, ¬Extends flag entry.1) :
    (m.entries.map fun entry => definition entry.1 (value entry.2)).filterMap
        (definedValue? flag) = ((m.find? flag).map value).toList := by
  obtain ⟨entries, hascend⟩ := m
  show _ = ((valueAt? flag entries).map value).toList
  induction entries with
  | nil => rfl
  | cons entry entries ih =>
    obtain ⟨hhead, htail⟩ := List.pairwise_cons.1 hascend
    have hrest := List.forall_mem_cons.1 h
    rw [List.map_cons, List.filterMap_cons, valueAt?_cons]
    by_cases heq : entry.1 = flag
    · have hothers : ∀ other ∈ entries, ¬Sets flag other.1 := by
        rintro other hother (hsame | hext)
        · exact String.ne_of_lt (hhead other hother) (heq.trans hsame.symm)
        · exact hrest.2 other hother hext
      rw [if_pos heq, ← heq, definedValue?_eq_some.2 rfl, heq,
        filterMap_definitions_eq_nil hplain hothers]
      rfl
    · have hnone := definedValue?_definition hplain (not_or.2 ⟨heq, hrest.1⟩) (value entry.2)
      rw [if_neg heq, hnone]
      exact ih htail hrest.2

/-- No library defines what does not begin like the flag of one. -/
theorem filterMap_dependencies (doc : Document)
    (hstart : ¬(dependencyFlag "").toList <+: flag.toList ++ ['='])
    (hflag : ¬flag.toList ++ ['='] <+: (dependencyFlag "").toList) :
    (doc.dependencies.entries.map fun entry =>
      definition (dependencyFlag entry.1) (onOff entry.2.enabled)).filterMap (definedValue? flag) =
      [] :=
  filterMap_definitions_eq_nil hplain fun entry _ => dependencyFlag_not_sets hstart hflag entry.1

/-- Where neither a library nor a module defines a flag, the options decide about it. -/
theorem filterMap_documentDefinitions (doc : Document)
    (hdependency : ¬(dependencyFlag "").toList <+: flag.toList ++ ['='] ∧
      ¬flag.toList ++ ['='] <+: (dependencyFlag "").toList)
    (hmodules : ∀ other ∈ doc.moduleFlags, ¬Sets flag other.1) :
    doc.definitions.filterMap (definedValue? flag) =
      (doc.options.entries.map fun entry => definition entry.1 entry.2.render).filterMap
        (definedValue? flag) := by
  rw [Document.definitions, List.filterMap_append, List.filterMap_append,
    filterMap_dependencies hplain doc hdependency.1 hdependency.2,
    filterMap_definitions_eq_nil hplain hmodules, List.append_nil, List.append_nil]

end Flag

/-! ### Entries in the order of their keys -/

/-- The entries of a map are its keys with their values. -/
theorem KeyMap.mem_entries_iff {α : Type} {m : KeyMap α} {key : String} {v : α} :
    (key, v) ∈ m.entries ↔ m.find? key = some v := by
  obtain ⟨entries, hascend⟩ := m
  show _ ↔ valueAt? key entries = some v
  induction entries with
  | nil => simp [valueAt?]
  | cons entry entries ih =>
    obtain ⟨hhead, htail⟩ := List.pairwise_cons.1 hascend
    rw [valueAt?_cons, List.mem_cons]
    by_cases hkey : entry.1 = key
    · subst hkey
      rw [if_pos rfl, Option.some.injEq]
      refine ⟨fun h => ?_, fun h => .inl (Prod.ext rfl h.symm)⟩
      rcases h with heq | hmem
      · exact congrArg Prod.snd heq.symm
      · exact absurd (hhead _ hmem) (String.lt_irrefl _)
    · rw [if_neg hkey, ← ih htail]
      exact or_iff_right fun heq => hkey (congrArg Prod.fst heq).symm

/-- Whether arguments are emitted for each key of a map and its value, one key after
another in ascending order. -/
def KeyMap.Emits {α : Type} (m : KeyMap α) (emit : String → α → List String)
    (args : List String) : Prop :=
  ∃ entries, KeysAscend entries ∧ (∀ key v, (key, v) ∈ entries ↔ m.find? key = some v) ∧
    args = entries.flatMap fun entry => emit entry.1 entry.2

theorem KeyMap.emits_entries {α : Type} (m : KeyMap α) (emit : String → α → List String) :
    m.Emits emit (m.entries.flatMap fun entry => emit entry.1 entry.2) :=
  ⟨m.entries, m.ascend, fun _ _ => KeyMap.mem_entries_iff, rfl⟩

namespace Document

/-- The flags of a module that are passed to the build tool. -/
def passedFlags (doc : Document) (entry : String × ModuleSwitches) : List (String × Bool) :=
  (entry.2.flags entry.1).filter fun flag => !doc.isReserved flag.1

theorem moduleFlags_eq_flatMap (doc : Document) :
    doc.moduleFlags = doc.modules.entries.flatMap doc.passedFlags := by
  simp only [moduleFlags, allModuleFlags, List.map_flatMap, List.filter_flatMap, List.map_map,
    Function.comp_def, List.map_id']
  rfl

/-- The definitions for a module: its flags that are not reserved. -/
def moduleDefinitions (doc : Document) (name : String) (m : ModuleSwitches) : List String :=
  ((m.flags name).filter fun flag => !doc.isReserved flag.1).map fun flag =>
    definition flag.1 (onOff flag.2)

/-- Whether arguments are what the options, the libraries and the modules of a document
emit, each of the three in the order of its keys. -/
def Emits (doc : Document) (args : List String) : Prop :=
  ∃ options dependencies modules, args = options ++ dependencies ++ modules ∧
    doc.options.Emits (fun name value => [definition name value.render]) options ∧
    doc.dependencies.Emits
      (fun name switches => [definition (dependencyFlag name) (onOff switches.enabled)])
      dependencies ∧
    doc.modules.Emits doc.moduleDefinitions modules

theorem emits_definitions (doc : Document) : doc.Emits doc.definitions := by
  refine ⟨_, _, _, ?_, doc.options.emits_entries _, doc.dependencies.emits_entries _,
    doc.modules.emits_entries _⟩
  have hmodules : doc.moduleFlags.map (fun flag => definition flag.1 (onOff flag.2)) =
      doc.modules.entries.flatMap fun entry => doc.moduleDefinitions entry.1 entry.2 := by
    rw [moduleFlags_eq_flatMap, List.map_flatMap]
    rfl
  rw [definitions, hmodules, List.map_eq_flatMap, List.map_eq_flatMap]

end Document

/-- An ending without an equals sign does not make a name extend a flag. -/
theorem Extends.of_append {flag name ending : String} (hending : '=' ∉ ending.toList)
    (h : Extends flag (name ++ ending)) : Extends flag name := by
  obtain ⟨more, hmore⟩ := h
  rw [String.toList_append] at hmore
  rcases List.append_eq_append_iff.1 hmore with ⟨rest, hname, -⟩ | ⟨rest, hflag, hrest⟩
  · exact ⟨rest, hname.symm⟩
  · cases rest with
    | nil => exact ⟨[], by simpa using hflag⟩
    | cons c rest =>
      -- The equals sign would be the last character of a part of the ending.
      have hmem : '=' ∈ c :: rest := by
        have hlast := congrArg List.getLast? hflag
        rw [List.getLast?_concat, List.getLast?_append,
          List.getLast?_eq_some_getLast (List.cons_ne_nil c rest), Option.some_or,
          Option.some_inj] at hlast
        exact hlast ▸ List.getLast_mem _
      exact absurd (hrest ▸ List.mem_append_left _ hmem) hending

/-- The flags of a module are its main one and that with two endings. -/
theorem Document.allModuleFlags_names {doc : Document} {flag : String × String × Bool}
    (h : flag ∈ doc.allModuleFlags) :
    flag.1 ∈ doc.modules.keys ∧
      ∃ ending ∈ ["", "_TESTS", "_EXAMPLES"], flag.2.1 = ModuleSwitches.mainFlag flag.1 ++ ending := by
  simp only [Document.allModuleFlags, List.mem_map, List.mem_flatMap] at h
  obtain ⟨entry, hentry, other, hother, rfl⟩ := h
  refine ⟨List.mem_map_of_mem hentry, ?_⟩
  simp only [ModuleSwitches.flags, List.mem_cons] at hother
  rcases hother with rfl | hother
  · exact ⟨"", by simp, by simp⟩
  · split at hother
    · simp only [List.mem_cons, List.not_mem_nil, or_false] at hother
      rcases hother with rfl | rfl
      · exact ⟨"_TESTS", by simp, rfl⟩
      · exact ⟨"_EXAMPLES", by simp, rfl⟩
    · cases hother

/-- So are those of them that are passed, and they are not reserved. -/
theorem Document.moduleFlags_names {doc : Document} {flag : String × Bool}
    (h : flag ∈ doc.moduleFlags) :
    doc.isReserved flag.1 = false ∧ ∃ name ∈ doc.modules.keys,
      ∃ ending ∈ ["", "_TESTS", "_EXAMPLES"], flag.1 = ModuleSwitches.mainFlag name ++ ending := by
  obtain ⟨hmem, hreserved⟩ := List.mem_filter.1 h
  obtain ⟨named, hnamed, rfl⟩ := List.mem_map.1 hmem
  obtain ⟨hname, hflag⟩ := Document.allModuleFlags_names hnamed
  exact ⟨by simpa using hreserved, named.1, hname, hflag⟩

/-- The flag of a module is no definition of what does not begin like one. -/
theorem Document.moduleFlags_not_sets {doc : Document} {flag : String}
    (hstart : ¬moduleFlagStart.toList <+: flag.toList ++ ['='])
    (hflag : ¬flag.toList ++ ['='] <+: moduleFlagStart.toList) :
    ∀ other ∈ doc.moduleFlags, ¬Sets flag other.1 := by
  intro other hother
  obtain ⟨-, name, -, ending, -, heq⟩ := Document.moduleFlags_names hother
  rw [heq, ModuleSwitches.mainFlag, String.append_assoc]
  exact not_sets_of_start hstart hflag _

/-! ### Arguments of the configure command -/

theorem withoutOperands_eq_self {args : List String} (h : ∀ arg ∈ args, arg ∉ operandFlags) :
    withoutOperands args = args := by
  fun_induction withoutOperands args with
  | case1 => rfl
  | case2 => rfl
  | case3 arg operand rest hflag ih => exact absurd hflag (h arg (List.mem_cons_self ..))
  | case4 arg operand rest hflag ih => rw [ih fun a ha => h a (List.mem_cons_of_mem _ ha)]

theorem definition_not_mem_operandFlags (flag value : String) :
    definition flag value ∉ operandFlags := by
  have hsecond : (definition flag value).toList[1]? = some 'D' := by
    rw [toList_definition]
    rfl
  intro hmem
  simp only [operandFlags, List.mem_cons, List.not_mem_nil, or_false] at hmem
  rcases hmem with h | h | h <;> rw [h] at hsecond <;> revert hsecond <;> decide

/-- The build tool is given the build type and the definitions of the document. -/
theorem Settings.withoutOperands_configureCommand (settings : Settings) (doc : Document) :
    withoutOperands (settings.configureCommand doc).args =
      definition "CMAKE_BUILD_TYPE" doc.effectiveBuildType :: doc.definitions := by
  have hdefinitions : ∀ arg ∈ definition "CMAKE_BUILD_TYPE" doc.effectiveBuildType ::
      doc.definitions, arg ∉ operandFlags := by
    intro arg harg
    simp only [Document.definitions, List.mem_cons, List.mem_append, List.mem_map] at harg
    rcases harg with rfl | (⟨_, -, rfl⟩ | ⟨_, -, rfl⟩) | ⟨_, -, rfl⟩ <;>
      exact definition_not_mem_operandFlags _ _
  have hself := withoutOperands_eq_self hdefinitions
  unfold Settings.configureCommand
  cases settings.generator <;> exact hself

end BuildConductor
