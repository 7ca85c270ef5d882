import BuildConductor.Overview
import BuildConductor.Proofs.Plan.BuildType
import BuildConductor.Proofs.Text.Words

/-! What an overview tells of a plan.

An overview shows a document as it stands. Its build type is planned with if it is not blank,
and can be seen behind its label where no newline comes between; its switches are wanted in
modules that are enabled. So the overview tells what is planned, as `TellsPlan` says, exactly
where what stands in the document is what is planned with (`overview_tells_iff`). -/
namespace BuildConductor

/-- The switches of a module as they are wanted: all others are off if it is not enabled. -/
def ModuleSwitches.wanted (m : ModuleSwitches) : ModuleSwitches :=
  ⟨m.enabled, m.wantsTests, m.wantsExamples⟩

theorem ModuleSwitches.wanted_eq_iff (m : ModuleSwitches) :
    m.wanted = m ↔ m.enabled = true ∨ m.tests = false ∧ m.examples = false := by
  obtain ⟨enabled, tests, examples⟩ := m
  revert enabled tests examples
  decide

namespace Document

variable (doc : Document) (host : Platform) (generator : Generator)

/-! ### Places in the text -/

/-- An overview up to what it shows as the build type. -/
def overviewStart : String :=
  "Build configuration:\n" ++ s!"  platform:   {doc.platform.text} (detected: {host.name})\n" ++
    "  build type: "

/-- What an overview shows of the generator. -/
def generatorLine : String :=
  s!"  generator:  {generator.name} (CMake default unless --generator is given)\n"

/-- An overview up to the lines of modules. -/
def modulesStart : String :=
  doc.overviewStart host ++ doc.buildType ++ "\n" ++ generatorLine generator ++ "\n" ++ "Modules" ++
    ":\n"

/-- The lines of modules. -/
def moduleLines (entries : List (String × ModuleSwitches)) : String :=
  String.join (entries.map fun entry => moduleLine entry.1 entry.2)

theorem overview_eq : doc.overview host generator =
    doc.overviewStart host ++ (doc.buildType ++ ("\n" ++ (generatorLine generator ++
      (overviewSection "Modules"
        (doc.modules.entries.map fun entry => moduleLine entry.1 entry.2) ++
      overviewSection "Third-party libraries"
        (doc.dependencies.entries.map fun entry => dependencyLine entry.1 entry.2))))) := by
  unfold overview overviewStart generatorLine
  dsimp only [toString]
  simp only [String.append_assoc]

theorem overview_eq_of_modules (h : doc.modules.entries ≠ []) : doc.overview host generator =
    doc.modulesStart host generator ++ (moduleLines doc.modules.entries ++
      overviewSection "Third-party libraries"
        (doc.dependencies.entries.map fun entry => dependencyLine entry.1 entry.2)) := by
  have hsome : (doc.modules.entries.map fun entry => moduleLine entry.1 entry.2).isEmpty = false := by
    simpa using h
  have hlines : overviewSection "Modules"
      (doc.modules.entries.map fun entry => moduleLine entry.1 entry.2) =
        "\n" ++ "Modules" ++ ":\n" ++ moduleLines doc.modules.entries := by
    rw [overviewSection, hsome, moduleLines]
    rfl
  rw [overview_eq, hlines]
  simp only [modulesStart, String.append_assoc]

theorem moduleLines_append_cons (earlier later : List (String × ModuleSwitches)) (name : String)
    (m : ModuleSwitches) : moduleLines (earlier ++ (name, m) :: later) =
      moduleLines earlier ++ (moduleLine name m ++ moduleLines later) := by
  rw [moduleLines, List.map_append, List.map_cons, String.join_append, String.join_cons]
  rfl

/-! ### The build type -/

/-- What an overview shows as the build type: what stands behind its label, up to the end of the
line. -/
def shownBuildType : List Char :=
  ((doc.overview host generator).toList.drop (doc.overviewStart host).toList.length).takeWhile
    (· != '\n')

/-- It is the build type of the document, up to the end of its first line. -/
theorem shownBuildType_eq :
    doc.shownBuildType host generator = doc.buildType.toList.takeWhile (· != '\n') := by
  have hnewline : "\n".toList = ['\n'] := rfl
  rw [shownBuildType, overview_eq, String.toList_append, List.drop_left, String.toList_append,
    String.toList_append, hnewline, List.singleton_append]
  exact Text.takeWhile_append_stop rfl _ _

/-- Whether the build type that is planned with stands in the first line of the one of the
document. -/
structure BuildTypeVisible : Prop where
  not_blank : Text.trim doc.buildType ≠ ""
  before : '\n' ∉ doc.buildType.toList.takeWhile Text.isBlank
  within : '\n' ∉ (Text.trim doc.buildType).toList

end Document

/-- What trimming leaves of a text is seen in its first line if no newline is before or in
it. -/
theorem Text.trimList_infix_firstLine_iff {cs : List Char} (hne : trimList cs ≠ []) :
    trimList cs <:+: cs.takeWhile (· != '\n') ↔
      '\n' ∉ cs.takeWhile isBlank ∧ '\n' ∉ trimList cs := by
  obtain ⟨after, hcs, -⟩ := exists_trimList cs
  have hnewline : '\n' ∉ cs.takeWhile (· != '\n') := fun hmem => by
    simpa using List.mem_takeWhile_imp hmem
  constructor
  · intro hshown
    refine ⟨fun hbefore => ?_, fun hwithin => hnewline (hshown.subset hwithin)⟩
    -- The first line would end among the blanks before it, where nothing of it is.
    obtain ⟨line, more, hsplit⟩ := List.append_of_mem hbefore
    have hline : cs.takeWhile (· != '\n') = line.takeWhile (· != '\n') := by
      rw [hcs, hsplit, List.append_assoc, List.cons_append]
      exact takeWhile_append_stop rfl _ _
    obtain ⟨c, letters, htrim⟩ := List.exists_cons_of_ne_nil hne
    have hc : c ∈ cs.takeWhile isBlank := by
      rw [hline, htrim] at hshown
      rw [hsplit]
      exact List.mem_append_left _
        ((List.takeWhile_prefix _).subset (hshown.subset List.mem_cons_self))
    have hblank := isBlank_of_trimList_eq_cons htrim
    rw [List.mem_takeWhile_imp hc] at hblank
    cases hblank
  · rintro ⟨hbefore, hwithin⟩
    have hrun : ∀ c ∈ cs.takeWhile isBlank ++ trimList cs, (c != '\n') = true := fun c hc =>
      bne_iff_ne.2 fun heq => (List.mem_append.1 hc).elim (heq ▸ hbefore) (heq ▸ hwithin)
    refine ⟨cs.takeWhile isBlank, after.takeWhile (· != '\n'), ?_⟩
    rw [← List.takeWhile_append_of_pos hrun, List.append_assoc, ← hcs]

namespace Document

variable (doc : Document) (host : Platform) (generator : Generator)

/-- The build type that is planned with is seen in the first line of the one of the document
exactly if it stands there. -/
theorem effectiveBuildType_infix_iff :
    doc.effectiveBuildType.toList <:+: doc.buildType.toList.takeWhile (· != '\n') ↔
      doc.BuildTypeVisible := by
  by_cases hblank : Text.trim doc.buildType = ""
  · refine iff_of_false (fun hshown => ?_) fun hvisible => hvisible.not_blank hblank
    rw [effectiveBuildType_of_blank hblank] at hshown
    have hall : Text.AllBlank doc.buildType.toList :=
      Text.trimList_eq_nil_iff.1 (by simpa [Text.trim] using hblank)
    have hletter : 'R' ∈ doc.buildType.toList :=
      (List.takeWhile_prefix _).subset (hshown.subset (by decide))
    exact absurd (hall _ hletter) (by decide)
  · have hne : Text.trimList doc.buildType.toList ≠ [] := by simpa [Text.trim] using hblank
    rw [effectiveBuildType_of_not_blank hblank, Text.trim, String.toList_ofList,
      Text.trimList_infix_firstLine_iff hne]
    constructor
    · rintro ⟨hbefore, hwithin⟩
      exact ⟨hblank, hbefore, by rwa [Text.trim, String.toList_ofList]⟩
    · rintro ⟨-, hbefore, hwithin⟩
      rw [Text.trim, String.toList_ofList] at hwithin
      exact ⟨hbefore, hwithin⟩

/-! ### Modules -/

/-- What a line shows behind the name of a module. -/
def marks (m : ModuleSwitches) : String :=
  mark m.enabled ++ " (tests: " ++ mark m.tests ++ ", examples: " ++ mark m.examples ++ ")\n"

theorem moduleLine_eq (name : String) (m : ModuleSwitches) :
    moduleLine name m = "  " ++ name ++ ": " ++ marks m := by
  unfold moduleLine marks
  dsimp only [toString]
  simp only [String.append_assoc]

theorem mark_append_inj {b other : Bool} {rest more : String}
    (h : mark b ++ rest = mark other ++ more) : b = other ∧ rest = more := by
  have hlist := congrArg String.toList h
  rw [String.toList_append, String.toList_append] at hlist
  cases b <;> cases other <;> simp_all [mark, String.toList_inj]

/-- Marks tell the switches, whatever follows them. -/
theorem marks_append_inj {m other : ModuleSwitches} {rest more : String}
    (h : marks m ++ rest = marks other ++ more) : m = other := by
  simp only [marks, String.append_assoc] at h
  obtain ⟨henabled, h⟩ := mark_append_inj h
  obtain ⟨htests, h⟩ := mark_append_inj ((String.append_right_inj _).1 h)
  obtain ⟨hexamples, -⟩ := mark_append_inj ((String.append_right_inj _).1 h)
  cases m
  cases other
  cases henabled
  cases htests
  cases hexamples
  rfl

/-- Whether an overview shows a module with these switches, behind the lines of other
modules. -/
def ShowsModule (earlier : List (String × ModuleSwitches)) (name : String) (m : ModuleSwitches) :
    Prop :=
  ∃ rest, doc.overview host generator =
    doc.modulesStart host generator ++ (moduleLines earlier ++ (moduleLine name m ++ rest))

theorem showsModule_iff {earlier later : List (String × ModuleSwitches)} {name : String}
    {m : ModuleSwitches} (h : doc.modules.entries = earlier ++ (name, m) :: later)
    (other : ModuleSwitches) : doc.ShowsModule host generator earlier name other ↔ other = m := by
  have hshown : doc.ShowsModule host generator earlier name m := by
    have hne : doc.modules.entries ≠ [] := by rw [h]; simp
    refine ⟨moduleLines later ++ overviewSection "Third-party libraries"
      (doc.dependencies.entries.map fun entry => dependencyLine entry.1 entry.2), ?_⟩
    rw [overview_eq_of_modules doc host generator hne, h, moduleLines_append_cons,
      String.append_assoc, String.append_assoc]
  refine ⟨fun ⟨rest, hrest⟩ => ?_, fun heq => heq ▸ hshown⟩
  obtain ⟨more, hmore⟩ := hshown
  have hlines := (String.append_right_inj _).1 ((String.append_right_inj _).1 (hrest.symm.trans hmore))
  simp only [moduleLine_eq, String.append_assoc] at hlines
  exact marks_append_inj ((String.append_right_inj _).1 ((String.append_right_inj _).1
    ((String.append_right_inj _).1 hlines)))

/-! ### Both -/

/-- Whether an overview tells what a plan does: what stands behind the label of the build type has
the one that is planned with, and every module is shown with the switches that are wanted. -/
structure TellsPlan (plan : Plan) : Prop where
  buildType : plan.buildType.toList <:+: doc.shownBuildType host generator
  modules : ∀ earlier name m later, doc.modules.entries = earlier ++ (name, m) :: later →
    doc.ShowsModule host generator earlier name m.wanted

/-- An overview shows the build type of the document behind its label, up to the end of its first
line, and every module with the switches that it has there. So it tells what is planned exactly if
the build type that is planned with stands in that first line, and no module has a switch that is
not wanted. -/
theorem overview_tells_iff (settings : Settings) :
    (doc.overviewStart host).toList <+: (doc.overview host generator).toList ∧
      doc.shownBuildType host generator = doc.buildType.toList.takeWhile (· != '\n') ∧
      (∀ earlier name m later, doc.modules.entries = earlier ++ (name, m) :: later →
        doc.ShowsModule host generator earlier name m) ∧
      (doc.TellsPlan host generator (doc.plan settings) ↔
        doc.BuildTypeVisible ∧ ∀ entry ∈ doc.modules.entries,
          entry.2.enabled = true ∨ entry.2.tests = false ∧ entry.2.examples = false) := by
  have hbuildType : (doc.plan settings).buildType.toList <:+: doc.shownBuildType host generator ↔
      doc.BuildTypeVisible := by
    simp only [plan, shownBuildType_eq]
    exact doc.effectiveBuildType_infix_iff
  have hmodule {earlier later : List (String × ModuleSwitches)} {name : String} {m : ModuleSwitches}
      (h : doc.modules.entries = earlier ++ (name, m) :: later) :=
    doc.showsModule_iff host generator h
  refine ⟨?_, doc.shownBuildType_eq host generator,
    fun earlier name m later h => (hmodule h m).2 rfl, fun htells => ?_, fun hboth => ?_⟩
  · rw [overview_eq, String.toList_append]
    exact List.prefix_append _ _
  · refine ⟨hbuildType.1 htells.buildType, fun entry hentry => ?_⟩
    obtain ⟨earlier, later, h⟩ := List.append_of_mem hentry
    exact (ModuleSwitches.wanted_eq_iff _).1
      ((hmodule h _).1 (htells.modules earlier entry.1 entry.2 later h))
  · obtain ⟨hvisible, hall⟩ := hboth
    refine ⟨hbuildType.2 hvisible, fun earlier name m later h => (hmodule h _).2 ?_⟩
    exact (ModuleSwitches.wanted_eq_iff m).2 (hall (name, m) (h ▸ by simp))

/-- A document that leaves its build type blank and disables a module. -/
def sparseDocument : Document :=
  {Document.empty with buildType := "", modules := .ofList [("utils", ⟨false, true, true⟩)]}

/-- It is planned as a release, which its overview does not say, and nothing is built of the
module, whose tests and examples are marked all the same. -/
theorem overview_not_tells :
    (sparseDocument.plan appSettings).buildType = "Release" ∧
      ModuleSwitches.wanted ⟨false, true, true⟩ = ⟨false, false, false⟩ ∧
      sparseDocument.overview .linux .unixMakefiles =
        "Build configuration:\n  platform:   auto (detected: linux)\n  build type: \n" ++
        "  generator:  Unix Makefiles (CMake default unless --generator is given)\n\n" ++
        "Modules:\n  utils: ✗ (tests: ✓, examples: ✓)\n\nThird-party libraries:\n  (none)\n" ∧
      ¬(sparseDocument.plan appSettings).buildType.toList <:+:
        sparseDocument.shownBuildType .linux .unixMakefiles ∧
      ¬sparseDocument.ShowsModule .linux .unixMakefiles [] "utils" ⟨false, false, false⟩ ∧
      ¬sparseDocument.TellsPlan .linux .unixMakefiles (sparseDocument.plan appSettings) := by
  have hmodule : ¬sparseDocument.ShowsModule .linux .unixMakefiles [] "utils"
      ⟨false, false, false⟩ := fun hshown =>
    absurd ((sparseDocument.showsModule_iff .linux .unixMakefiles rfl _).1 hshown) (by decide)
  refine ⟨by decide +kernel, rfl, by decide +kernel, ?_, hmodule, fun htells => ?_⟩
  · rw [shownBuildType_eq]
    decide +kernel
  · exact hmodule (htells.modules [] "utils" ⟨false, true, true⟩ [] rfl)

end Document

end BuildConductor
