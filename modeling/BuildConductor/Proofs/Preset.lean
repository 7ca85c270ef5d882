import BuildConductor.Preset
import BuildConductor.Proofs.Document.Switches
import BuildConductor.Proofs.Plan.Agreement

/-! Documents with ready-made options.

Such a document says plainly whether tests are run (`testsEnabled_of_baseline`). If it has
nothing else that could surprise, nothing is warned about (`warnings_eq_nil`), and it is read
back from the file that it is saved in (`parse_write_of_baseline`). -/
namespace BuildConductor

/-! ### The options -/

/-- The names of the ready-made options, which do not depend on their values. -/
def baselineNames : List String :=
  ["CMAKE_INSTALL_PREFIX", testsOption, examplesOption, "BUILD_SHARED_LIBS"]

theorem baselineOptions_perm (tests examples : Bool) :
    (baselineOptions tests examples).entries.Perm
      [("CMAKE_INSTALL_PREFIX", .string defaultInstallPath), (testsOption, .bool tests),
        (examplesOption, .bool examples), ("BUILD_SHARED_LIBS", .bool false)] := by
  refine KeyMap.entries_ofList_perm ?_
  show baselineNames.Nodup
  decide +kernel

theorem mem_keys_baselineOptions {tests examples : Bool} {key : String} :
    key ∈ (baselineOptions tests examples).keys ↔ key ∈ baselineNames :=
  ((baselineOptions_perm tests examples).map Prod.fst).mem_iff

/-- Their values are kept as they are when they are saved, and hold no numbers. -/
theorem baselineOptions_plain {tests examples : Bool} {entry : String × OptionValue}
    (h : entry ∈ (baselineOptions tests examples).entries) :
    OptionValue.Orderly entry.2 ∧ entry.2.numbers = [] := by
  have hmem := (baselineOptions_perm tests examples).mem_iff.1 h
  simp only [List.mem_cons, List.not_mem_nil, or_false] at hmem
  rcases hmem with rfl | rfl | rfl | rfl
  · exact ⟨⟨rfl, .string _ _⟩, rfl⟩
  · exact ⟨⟨rfl, .bool _ _⟩, rfl⟩
  · exact ⟨⟨rfl, .bool _ _⟩, rfl⟩
  · exact ⟨⟨rfl, .bool _ _⟩, rfl⟩

theorem find?_baselineOptions_tests (tests examples : Bool) :
    (baselineOptions tests examples).find? testsOption = some (.bool tests) := by
  cases tests <;> cases examples <;> decide +kernel

/-- No flag of a module of the project is the name of a ready-made option. -/
theorem moduleFlag_not_mem_baselineNames :
    ∀ name ∈ projectModules, ∀ ending ∈ ["", "_TESTS", "_EXAMPLES"],
      ModuleSwitches.mainFlag name ++ ending ∉ baselineNames := by
  decide +kernel

/-! ### Documents with these options -/

namespace Document
variable {doc : Document} {tests examples : Bool}

theorem testsEnabled_of_baseline (h : doc.options = baselineOptions tests examples) :
    doc.testsEnabled = tests := by
  rw [testsEnabled, h, find?_baselineOptions_tests]
  rfl

/-- Flags of the modules of the project are passed with these options. -/
theorem not_isReserved_of_baseline (h : doc.options = baselineOptions tests examples)
    (hmodules : ∀ name ∈ doc.modules.keys, name ∈ projectModules) :
    ∀ flag ∈ doc.allModuleFlags, ¬doc.isReserved flag.2.1 = true := by
  intro flag hflag hreserved
  obtain ⟨hname, ending, hending, heq⟩ := allModuleFlags_names hflag
  refine moduleFlag_not_mem_baselineNames flag.1 (hmodules _ hname) ending hending ?_
  rw [← heq]
  rcases isReserved_iff.1 hreserved with htests | hexamples | hoption
  · rw [htests]
    decide
  · rw [hexamples]
    decide
  · exact mem_keys_baselineOptions.1 (h ▸ hoption)

/-- A known build type, these options, and no modules but those of the project: there is
nothing to warn about. -/
theorem warnings_eq_nil {buildType : BuildType} (hbuildType : doc.buildType = buildType.name)
    (hplatform : doc.platform = .auto)
    (hmodules : ∀ name ∈ doc.modules.keys, name ∈ projectModules)
    (hoptions : doc.options = baselineOptions tests examples) (hextra : doc.extra = .empty) :
    doc.warnings = [] := by
  have hswitches : doc.switchWarnings = [] :=
    List.map_eq_nil_iff.2 (List.filter_eq_nil_iff.2 (not_isReserved_of_baseline hoptions hmodules))
  have hkeys : doc.extra.keys = [] := by
    rw [hextra]
    rfl
  rw [switchWarnings] at hswitches
  rw [warnings, hswitches, hkeys, hbuildType, BuildType.ofName?_name, hplatform]
  rfl

/-- What is saved of such a document is read back, whatever its build type and switches. -/
theorem parse_write_of_baseline (hplatform : doc.platform = .auto)
    (hoptions : doc.options = baselineOptions tests examples) (hextra : doc.extra = .empty)
    (path : Path) : parse doc.write path = .ok doc := by
  have horderly : doc.Orderly := by
    refine ⟨?_, ?_, ?_⟩
    · rw [hplatform]
      decide
    · rw [hoptions]
      exact fun entry hentry => (baselineOptions_plain hentry).1
    · rw [hextra]
      exact List.forall_mem_nil _
  have hnumbers : doc.numbers = [] := by
    rw [numbers, hoptions, hextra, KeyMap.values, List.flatMap_map, List.append_eq_nil_iff]
    exact ⟨List.flatMap_eq_nil_iff.2 fun entry hentry => (baselineOptions_plain hentry).2, rfl⟩
  refine parse_eq_ok_iff.2 (read_write horderly ?_)
  rw [hnumbers]
  exact List.forall_mem_nil _

end Document

end BuildConductor
