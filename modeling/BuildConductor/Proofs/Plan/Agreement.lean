import BuildConductor.Proofs.Document.Saved
import BuildConductor.Proofs.Document.Truth
import BuildConductor.Proofs.Plan.Definitions

/-! Where a plan says the same thing twice.

Tests are planned as the build tool is told to build them, and what is built is of the
type that was configured. Both can be undone by the options, which are passed on as
they are: a null is held to be false and passed on as a text that is true, and an
option for the build type comes after the one of the document. What is said of tests can
also be undone by a name that goes on behind their option with an equals sign
(`plan_tests_iff`). -/
namespace BuildConductor

/-! ### Steps of a plan -/

@[simp] theorem Step.ofKind_command (kind : StepKind) (command : Command) :
    (Step.ofKind kind command).command = command := rfl

theorem Document.plan_configure (doc : Document) (settings : Settings) :
    (doc.plan settings).step? .configure =
      some (.ofKind .configure (settings.configureCommand doc)) := by
  simp [Plan.step?, Document.plan, Step.ofKind]

theorem Document.plan_build (doc : Document) (settings : Settings) :
    (doc.plan settings).step? .build =
      some (.ofKind .build (settings.buildCommand doc.effectiveBuildType)) := by
  simp [Plan.step?, Document.plan, Step.ofKind]

theorem Document.plan_test (doc : Document) (settings : Settings) :
    ((doc.plan settings).step? .test).isSome = doc.testsEnabled := by
  cases h : doc.testsEnabled <;> simp [Plan.step?, Document.plan, Step.ofKind, h]

/-! ### Tests -/

/-- The names that a document defines, with what they are defined as. -/
def Document.assignments (doc : Document) : List (String × String) :=
  doc.options.entries.map (fun entry => (entry.1, entry.2.render)) ++
  (doc.dependencies.entries.map (fun entry => (dependencyFlag entry.1, onOff entry.2.enabled)) ++
  doc.moduleFlags.map fun flag => (flag.1, onOff flag.2))

theorem Document.definitions_eq_map (doc : Document) :
    doc.definitions = doc.assignments.map fun assigned => definition assigned.1 assigned.2 := by
  simp only [definitions, assignments, List.map_append, List.map_map, List.append_assoc]
  rfl

/-- What the last name that goes on behind a flag is defined as. -/
def lastBehind? (flag : String) (assignments : List (String × String)) : Option String :=
  (assignments.reverse.find? fun assigned => Extends flag assigned.1).map Prod.snd

theorem lastBehind?_eq_none_iff {flag : String} {assignments : List (String × String)} :
    lastBehind? flag assignments = none ↔ ∀ assigned ∈ assignments, ¬Extends flag assigned.1 := by
  simp [lastBehind?]

/-- No other name that goes on behind the flag follows the last one. -/
theorem exists_split_of_lastBehind? {flag value : String} {assignments : List (String × String)}
    (h : lastBehind? flag assignments = some value) :
    ∃ earlier name later, assignments = earlier ++ (name, value) :: later ∧ Extends flag name ∧
      ∀ assigned ∈ later, ¬Extends flag assigned.1 := by
  obtain ⟨⟨name, _⟩, hfind, rfl⟩ := Option.map_eq_some_iff.1 h
  obtain ⟨hextends, after, before, hsplit, hafter⟩ := List.find?_eq_some_iff_append.1 hfind
  refine ⟨before.reverse, name, after.reverse, ?_, of_decide_eq_true hextends, ?_⟩
  · rw [← List.reverse_inj, hsplit]
    simp
  · intro assigned hassigned hbehind
    simpa [hbehind] using hafter assigned (List.mem_reverse.1 hassigned)

theorem dependencyFlag_not_sets_tests (name : String) : ¬Sets testsOption (dependencyFlag name) :=
  dependencyFlag_not_sets (by decide) (by decide) name

theorem Document.ne_testsOption_of_mem_moduleFlags {doc : Document} {flag : String × Bool}
    (h : flag ∈ doc.moduleFlags) : flag.1 ≠ testsOption := by
  intro hsame
  have hreserved := (Document.moduleFlags_names h).1
  simp [Document.isReserved, hsame] at hreserved

/-- Whether no option and no flag of a module goes on behind the option for tests. -/
theorem Document.lastBehind?_tests_eq_none_iff {doc : Document} :
    lastBehind? testsOption doc.assignments = none ↔
      (∀ key ∈ doc.options.keys, ¬Extends testsOption key) ∧
        ∀ flag ∈ doc.moduleFlags, ¬Extends testsOption flag.1 := by
  rw [lastBehind?_eq_none_iff]
  simp only [assignments, List.forall_mem_append, List.forall_mem_map, KeyMap.keys]
  refine and_congr_right fun _ => and_iff_right fun entry _ hbehind => ?_
  exact dependencyFlag_not_sets_tests entry.1 (.inr hbehind)

/-- The option for tests is not set behind a name that goes on behind it: the options are in
order, and libraries and modules do not set it. -/
theorem Document.pairwise_assignments (doc : Document) :
    doc.assignments.Pairwise fun first second =>
      Extends testsOption first.1 → second.1 ≠ testsOption := by
  have hdependencies : ∀ entry ∈ doc.dependencies.entries, dependencyFlag entry.1 ≠ testsOption :=
    fun entry _ hsame => dependencyFlag_not_sets_tests entry.1 (.inl hsame)
  have hmodules : ∀ flag ∈ doc.moduleFlags, flag.1 ≠ testsOption :=
    fun _ hflag => ne_testsOption_of_mem_moduleFlags hflag
  have hrest : ∀ assigned ∈
      doc.dependencies.entries.map (fun entry => (dependencyFlag entry.1, onOff entry.2.enabled)) ++
      doc.moduleFlags.map (fun flag => (flag.1, onOff flag.2)), assigned.1 ≠ testsOption :=
    List.forall_mem_append.2 ⟨List.forall_mem_map.2 hdependencies, List.forall_mem_map.2 hmodules⟩
  refine List.pairwise_append.2 ⟨List.pairwise_map.2 (doc.options.ascend.imp ?_),
    List.pairwise_of_forall_mem_list fun _ _ second hsecond _ => hrest second hsecond,
    fun _ _ second hsecond _ => hrest second hsecond⟩
  intro first second hascend hextends hsame
  exact String.lt_irrefl _ (String.lt_trans (hsame ▸ hascend) hextends.lt)

theorem Document.lastDefined?_configure (doc : Document) (settings : Settings) :
    lastDefined? testsOption (withoutOperands (settings.configureCommand doc).args) =
      lastDefined? testsOption doc.definitions := by
  have hother : ¬Sets testsOption "CMAKE_BUILD_TYPE" := by decide
  rw [lastDefined?, Settings.withoutOperands_configureCommand, List.filterMap_cons,
    definedValue?_definition (by decide) hother]
  rfl

/-- Where names go on behind the option for tests, the build tool is told what the last of them
is defined as, behind an equals sign. -/
theorem Document.lastDefined?_of_behind {doc : Document} {value : String}
    (h : lastBehind? testsOption doc.assignments = some value) :
    ∃ more, lastDefined? testsOption doc.definitions = some (more ++ "=" ++ value) := by
  obtain ⟨earlier, name, later, hassignments, hextends, hlater⟩ := exists_split_of_lastBehind? h
  have hordered := doc.pairwise_assignments
  rw [hassignments, List.pairwise_append, List.pairwise_cons] at hordered
  have hlast : ∀ other ∈ later, ¬Sets testsOption other.1 := by
    rintro other hother (hsame | hbehind)
    · exact hordered.2.1.1 other hother hextends hsame
    · exact hlater other hother hbehind
  obtain ⟨more, hmore⟩ := hextends.definition_eq value
  refine ⟨more, ?_⟩
  rw [doc.definitions_eq_map, hassignments, List.map_append, List.map_cons, hmore,
    lastDefined?_append_cons, lastDefined?, filterMap_definitions_eq_nil (by decide) hlast]
  rfl

/-- Where none does, it is told what the option says. -/
theorem Document.lastDefined?_of_not_behind {doc : Document}
    (h : lastBehind? testsOption doc.assignments = none) :
    lastDefined? testsOption doc.definitions =
      (doc.options.find? testsOption).map OptionValue.render := by
  have hnone := lastBehind?_eq_none_iff.1 h
  simp only [assignments, List.forall_mem_append, List.forall_mem_map] at hnone
  obtain ⟨hoptions, -, hmodules⟩ := hnone
  have hplain : '=' ∉ testsOption.toList := by decide
  have hflags : ∀ flag ∈ doc.moduleFlags, ¬Sets testsOption flag.1 := by
    rintro flag hflag (hsame | hbehind)
    · exact ne_testsOption_of_mem_moduleFlags hflag hsame
    · exact hmodules flag hflag hbehind
  rw [lastDefined?, filterMap_documentDefinitions hplain doc (by decide) hflags,
    filterMap_definitions hplain doc.options OptionValue.render hoptions]
  cases doc.options.find? testsOption <;> rfl

/-- An option of a document that was read is true where its text is, unless it is null. -/
theorem OptionValue.Orderly.isTrueText_render {value : OptionValue} (h : value.Orderly)
    (hnull : value ≠ .other .null) : isTrueText value.render = value.isTrue := by
  have hvalue : value.toJson ≠ .null := by
    intro hjson
    have hvalue := h.ofJson
    rw [hjson] at hvalue
    exact hnull hvalue.symm
  have hagree := (OptionValue.isTrueText_render_iff value.toJson).2 hvalue
  rwa [h.ofJson] at hagree

/-- Whether a plan has tests unless the build tool is told a text for them that it takes as
false. -/
def Plan.GatesTests (plan : Plan) : Prop :=
  ∃ configure, plan.step? .configure = some configure ∧
    ((plan.step? .test).isSome = true ↔
      ∀ value, lastDefined? testsOption (withoutOperands configure.command.args) = some value →
        isTrueText value = true)

theorem Document.gatesTests_iff {doc : Document} {settings : Settings} :
    (doc.plan settings).GatesTests ↔
      (doc.testsEnabled = true ↔ ∀ value,
        lastDefined? testsOption doc.definitions = some value → isTrueText value = true) := by
  have hsteps : (doc.plan settings).GatesTests ↔
      (doc.testsEnabled = true ↔ ∀ value,
        lastDefined? testsOption (withoutOperands (settings.configureCommand doc).args) =
          some value → isTrueText value = true) := by
    simp [Plan.GatesTests, doc.plan_configure settings, doc.plan_test settings]
  rw [hsteps, doc.lastDefined?_configure settings]

/-- The option for tests and its text agree, unless it is null. -/
theorem Document.testsEnabled_iff_option {doc : Document}
    (horderly : ∀ entry ∈ doc.options.entries, entry.2.Orderly) :
    (doc.testsEnabled = true ↔ ∀ value,
        (doc.options.find? testsOption).map OptionValue.render = some value →
          isTrueText value = true) ↔
      doc.options.find? testsOption ≠ some (.other .null) := by
  rw [Document.testsEnabled]
  cases hfind : doc.options.find? testsOption with
  | none => simp
  | some option =>
    by_cases hnull : option = .other .null
    · have htext : isTrueText (OptionValue.other .null).render = true := by decide
      simp [hnull, htext, OptionValue.isTrue]
    · have hagree : isTrueText option.render = option.isTrue := by
        obtain ⟨entry, hentry, heq⟩ := Option.map_eq_some_iff.1 hfind
        have hoption := horderly entry (List.mem_of_find?_eq_some hentry)
        rw [heq] at hoption
        exact hoption.isTrueText_render hnull
      simp [hagree, hnull]

/-- Tests are planned as the build tool is told, for a document that was read, exactly if its
option for tests is not null; or, where an option or the flag of a module goes on behind that one
with an equals sign, exactly if what the last such name is defined as is as true behind an equals
sign as the option is. -/
theorem Document.plan_tests_iff {text : String} {path : Path} {doc : Document}
    (hparse : Document.parse text path = .ok doc) (settings : Settings) :
    ((doc.plan settings).GatesTests ↔
      match lastBehind? testsOption doc.assignments with
      | some value => doc.testsEnabled = true ↔ ¬EndsUnfound value
      | none => doc.options.find? testsOption ≠ some (.other .null)) ∧
    (lastBehind? testsOption doc.assignments = none ↔
      (∀ key ∈ doc.options.keys, ¬Extends testsOption key) ∧
        ∀ flag ∈ doc.moduleFlags, ¬Extends testsOption flag.1) := by
  refine ⟨?_, lastBehind?_tests_eq_none_iff⟩
  rw [gatesTests_iff]
  cases hbehind : lastBehind? testsOption doc.assignments with
  | some value =>
    obtain ⟨more, hlast⟩ := lastDefined?_of_behind hbehind
    simp [hlast, isTrueText_equals]
  | none =>
    have horderly := (Document.orderly_of_read (Document.parse_eq_ok_iff.1 hparse)).options
    rw [lastDefined?_of_not_behind hbehind]
    exact testsEnabled_iff_option horderly

/-- A project with its build directory inside, on four processors. -/
def appSettings : Settings where
  host := .linux
  sourceDir := ⟨"/work/app"⟩
  buildDir := ⟨"/work/app/build"⟩
  jobs := 4
  generator := some "Ninja"

/-- A text that sets the option for tests, and has a module whose flag is that option. -/
def testsText (value : String) : String :=
  "\x7b\"modules\": \x7b\"tests\": [true], \"core\": []\x7d, " ++
  "\"cmake_options\": \x7b\"UTOOLKIT_BUILD_TESTS\": " ++ value ++ "\x7d\x7d"

/-- The document that it holds. -/
def testsDocument (value : OptionValue) : Document :=
  {Document.empty with
    modules := .ofList [("core", {}), ("tests", {})]
    options := .ofList [(testsOption, value)]}

theorem Document.plan_tests_off :
    let doc := testsDocument (.string " Off")
    Document.parse (testsText "\" Off\"") ⟨"a.json"⟩ = .ok doc ∧
      (doc.plan appSettings).GatesTests := by
  intro doc
  have hparse : Document.parse (testsText "\" Off\"") ⟨"a.json"⟩ = .ok doc :=
    Document.parse_of_toOption (by decide +kernel) ⟨"a.json"⟩
  have hbehind : lastBehind? testsOption doc.assignments = none := by decide +kernel
  have hgates := (Document.plan_tests_iff hparse appSettings).1
  rw [hbehind] at hgates
  exact ⟨hparse, hgates.2 (by decide +kernel)⟩

/-- A null keeps the tests out of the plan, while the build tool is told a text that it
takes as true. -/
theorem Document.plan_tests_null :
    let doc := testsDocument (.other .null)
    Document.parse (testsText "null") ⟨"a.json"⟩ = .ok doc ∧
      lastBehind? testsOption doc.assignments = none ∧
      (∃ configure, (doc.plan appSettings).step? .configure = some configure ∧
        lastDefined? testsOption (withoutOperands configure.command.args) = some "null" ∧
        isTrueText "null" = true ∧ ((doc.plan appSettings).step? .test).isSome = false) ∧
      ¬(doc.plan appSettings).GatesTests := by
  intro doc
  have hparse : Document.parse (testsText "null") ⟨"a.json"⟩ = .ok doc :=
    Document.parse_of_toOption (by decide +kernel) ⟨"a.json"⟩
  have htold : lastDefined? testsOption
      (withoutOperands (appSettings.configureCommand doc).args) = some "null" := by decide +kernel
  have htrue : isTrueText "null" = true := by decide
  have hnone : ((doc.plan appSettings).step? .test).isSome = false := by decide +kernel
  refine ⟨hparse, by decide +kernel, ⟨_, doc.plan_configure _, htold, htrue, hnone⟩, ?_⟩
  intro hgates
  have hall : doc.testsEnabled = true := by
    refine (Document.gatesTests_iff.1 hgates).2 fun value hvalue => ?_
    rw [← doc.lastDefined?_configure appSettings, htold] at hvalue
    rwa [← Option.some.inj hvalue]
  rw [← doc.plan_test appSettings] at hall
  exact Bool.noConfusion (hnone.symm.trans hall)

/-- A module whose flag goes on behind the option, and so is told of it last. -/
example : let doc : Document :=
      {Document.empty with
        modules := .ofList [("tests=x", {})]
        options := .ofList [(testsOption, .bool false)]}
    ((doc.plan appSettings).step? .test).isSome = false ∧
      lastBehind? testsOption doc.assignments = some "ON" ∧
      lastDefined? testsOption doc.definitions = some "X_EXAMPLES=ON" ∧
      isTrueText "X_EXAMPLES=ON" = true := by
  decide +kernel

/-! ### The build type -/

/-- The option for the build type. -/
def buildTypeOption : String := "CMAKE_BUILD_TYPE"

/-- What the options say of a flag. -/
def Document.setByOptions? (doc : Document) (flag : String) : Option String :=
  lastDefined? flag (doc.options.entries.map fun entry => definition entry.1 entry.2.render)

theorem Document.setByOptions?_eq_find? {doc : Document} {flag : String}
    (hplain : '=' ∉ flag.toList) (h : ∀ entry ∈ doc.options.entries, ¬Extends flag entry.1) :
    doc.setByOptions? flag = (doc.options.find? flag).map OptionValue.render := by
  rw [Document.setByOptions?, lastDefined?, filterMap_definitions hplain doc.options _ h]
  cases doc.options.find? flag <;> rfl

theorem Document.setByOptions?_eq_none {doc : Document} {flag : String}
    (hplain : '=' ∉ flag.toList) (h : ∀ entry ∈ doc.options.entries, ¬Sets flag entry.1) :
    doc.setByOptions? flag = none := by
  rw [Document.setByOptions?, lastDefined?,
    filterMap_definitions_eq_nil hplain h, List.getLast?_nil]

/-- The build type comes after all operands and before what the options say. -/
theorem Document.lastDefined?_buildType (doc : Document) (settings : Settings) :
    lastDefined? buildTypeOption (settings.configureCommand doc).args =
      some ((doc.setByOptions? buildTypeOption).getD doc.effectiveBuildType) := by
  have hplain : '=' ∉ buildTypeOption.toList := by decide
  have hmodules : ∀ other ∈ doc.moduleFlags, ¬Sets buildTypeOption other.1 :=
    Document.moduleFlags_not_sets (by decide) (by decide)
  have hdefinitions := filterMap_documentDefinitions hplain doc (by decide) hmodules
  have hoptions : lastDefined? buildTypeOption doc.definitions =
      doc.setByOptions? buildTypeOption := congrArg List.getLast? hdefinitions
  rw [← hoptions]
  exact lastDefined?_append_cons buildTypeOption doc.effectiveBuildType _ doc.definitions

theorem Settings.operandOf?_buildCommand (settings : Settings) (buildType : String) :
    operandOf? "--config" (settings.buildCommand buildType).args = some buildType := by
  simp [operandOf?, Settings.buildCommand]

/-- One build type is planned with: it is the one of the plan and follows `--config` when
the build tool builds, and it is what the tool is configured with, except for what the
options themselves say of it, since they come last. -/
theorem Document.plan_buildType (doc : Document) (settings : Settings) :
    ∃ configure build, (doc.plan settings).step? .configure = some configure ∧
      (doc.plan settings).step? .build = some build ∧
      (doc.plan settings).buildType = doc.effectiveBuildType ∧
      operandOf? "--config" build.command.args = some (doc.plan settings).buildType ∧
      lastDefined? buildTypeOption configure.command.args =
        some ((doc.setByOptions? buildTypeOption).getD (doc.plan settings).buildType) ∧
      ((∀ entry ∈ doc.options.entries, ¬Sets buildTypeOption entry.1) →
        lastDefined? buildTypeOption configure.command.args =
          some (doc.plan settings).buildType) ∧
      ((∀ entry ∈ doc.options.entries, ¬Extends buildTypeOption entry.1) →
        doc.setByOptions? buildTypeOption =
          (doc.options.find? buildTypeOption).map OptionValue.render) := by
  have hplain : '=' ∉ buildTypeOption.toList := by decide
  have hbuildType : (doc.plan settings).buildType = doc.effectiveBuildType := by
    simp only [Document.plan]
  have hlast := doc.lastDefined?_buildType settings
  rw [hbuildType]
  refine ⟨_, _, doc.plan_configure settings, doc.plan_build settings, rfl, ?_⟩
  rw [Step.ofKind_command, Step.ofKind_command]
  refine ⟨?_, ?_, ?_, ?_⟩
  · exact settings.operandOf?_buildCommand doc.effectiveBuildType
  · exact hlast
  · intro hnone
    rw [Document.setByOptions?_eq_none hplain hnone, Option.getD_none] at hlast
    exact hlast
  · exact Document.setByOptions?_eq_find? hplain

/-- An option for the build type is what the build tool is configured with, while another
type is built. -/
theorem Document.plan_buildType_overridden :
    let doc := {Document.empty with options := .ofList [(buildTypeOption, .string "Debug")]}
    ∃ configure build, (doc.plan appSettings).step? .configure = some configure ∧
      (doc.plan appSettings).step? .build = some build ∧
      lastDefined? buildTypeOption configure.command.args = some "Debug" ∧
      operandOf? "--config" build.command.args = some "Release" ∧
      (doc.plan appSettings).buildType = "Release" := by
  intro doc
  have htold : lastDefined? buildTypeOption (appSettings.configureCommand doc).args =
      some "Debug" := by decide +kernel
  exact ⟨_, _, doc.plan_configure _, doc.plan_build _, htold, by decide +kernel, by decide +kernel⟩

end BuildConductor
