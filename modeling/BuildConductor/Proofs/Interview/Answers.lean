import BuildConductor.Interview
import BuildConductor.Proofs.Conversation
import BuildConductor.Proofs.Preset

/-! What an interview makes of its answers.

`Said` relates what is heard in an interview to the document that it means, one rule for
each way in which a module or a library can be answered for; `askDocument_asks` shows that
the interview comes to no other. `Sound` gathers what follows for every document of an
interview, whatever the answers are (`Said.sound`), and `askDocument_scripted` puts both
together for answers that are given in advance. -/
namespace BuildConductor

namespace Interview

open BuildConductor.Task (Heard)

variable {ε π : Type}

/-! ### What is heard -/

/-- What is heard about a module, and what it means. -/
inductive SaidOfModule (name : String) : Heard → ModuleSwitches → Prop
  | disabled {enable : String} (henable : isConfirmed true enable = false) :
    SaidOfModule name [(confirmQuestion s!"Enable the {name} module?" true, enable)] .disabled
  | enabled {enable tests examples : String} (henable : isConfirmed true enable = true) :
    SaidOfModule name
      [(confirmQuestion s!"Enable the {name} module?" true, enable),
        (confirmQuestion (testsQuestion name) false, tests),
        (confirmQuestion (examplesQuestion name) true, examples)]
      ⟨true, isConfirmed false tests, isConfirmed true examples⟩

/-- What is heard about a library, and what it means. -/
inductive SaidOfDependency (name : String) : Heard → DependencySwitches → Prop
  | disabled {enable : String} (henable : isConfirmed true enable = false) :
    SaidOfDependency name [(confirmQuestion s!"Enable {name}?" true, enable)]
      (.ofFlags false false false)
  | enabled {enable examples tests : String} (henable : isConfirmed true enable = true) :
    SaidOfDependency name
      [(confirmQuestion s!"Enable {name}?" true, enable),
        (confirmQuestion (examplesQuestion name) true, examples),
        (confirmQuestion (testsQuestion name) true, tests)]
      (.ofFlags true (isConfirmed true examples) (isConfirmed true tests))

/-- What is heard about every name of a list. -/
inductive SaidOfAll {α : Type} (SaidOf : String → Heard → α → Prop) :
    List String → Heard → List (String × α) → Prop
  | nil : SaidOfAll SaidOf [] [] []
  | cons {name : String} {names : List String} {heard more : Heard} {a : α}
    {entries : List (String × α)} (h : SaidOf name heard a)
    (hrest : SaidOfAll SaidOf names more entries) :
    SaidOfAll SaidOf (name :: names) (heard ++ more) ((name, a) :: entries)

/-- What is heard in an interview, and the document that it means. -/
inductive Said : Heard → Document → Prop
  | intro {buildType : String} {ofModules ofDependencies : Heard}
    {modules : List (String × ModuleSwitches)} {dependencies : List (String × DependencySwitches)}
    (hmodules : SaidOfAll SaidOfModule projectModules ofModules modules)
    (hdependencies : SaidOfAll SaidOfDependency projectDependencies ofDependencies dependencies) :
    Said ((buildTypeQuestion, buildType) :: (ofModules ++ ofDependencies))
      (documentOf ((BuildType.ofName? buildType).getD .release) modules dependencies)

/-! ### The interview hears nothing else -/

theorem askModule_asks (name : String) :
    (askModule name : Task ε π _ _).OnlyAsks (SaidOfModule name) := by
  refine (Task.OnlyAsks.confirm _ true).bind ?_
  rintro _ _ ⟨enable, rfl, rfl⟩
  cases henable : isConfirmed true enable with
  | false => exact .pure (.disabled henable)
  | true =>
    refine (Task.OnlyAsks.confirm _ false).bind ?_
    rintro _ _ ⟨tests, rfl, rfl⟩
    refine (Task.OnlyAsks.confirm _ true).bind ?_
    rintro _ _ ⟨examples, rfl, rfl⟩
    exact .pure (.enabled henable)

theorem askDependency_asks (name : String) :
    (askDependency name : Task ε π _ _).OnlyAsks (SaidOfDependency name) := by
  refine (Task.OnlyAsks.confirm _ true).bind ?_
  rintro _ _ ⟨enable, rfl, rfl⟩
  cases henable : isConfirmed true enable with
  | false => exact .pure (.disabled henable)
  | true =>
    refine (Task.OnlyAsks.confirm _ true).bind ?_
    rintro _ _ ⟨examples, rfl, rfl⟩
    refine (Task.OnlyAsks.confirm _ true).bind ?_
    rintro _ _ ⟨tests, rfl, rfl⟩
    exact .pure (.enabled henable)

theorem askAll_asks {α : Type} {about : String → Task ε π PromptError α}
    {SaidOf : String → Heard → α → Prop} (h : ∀ name, (about name).OnlyAsks (SaidOf name))
    (names : List String) : (askAll about names).OnlyAsks (SaidOfAll SaidOf names) := by
  induction names with
  | nil => exact .pure .nil
  | cons name rest ih =>
    refine (h name).bind fun heard a ha => ih.bind fun more entries hentries => .pure ?_
    rw [List.append_nil]
    exact .cons ha hentries

/-- Whatever the interview hears, it comes to the document that this means. -/
theorem askDocument_asks : (askDocument : Task ε π _ _).OnlyAsks Said := by
  have hbuildType : (askBuildType : Task ε π _ _).OnlyAsks fun heard buildType =>
      ∃ answer, heard = [(buildTypeQuestion, answer)] ∧
        buildType = (BuildType.ofName? answer).getD .release := by
    refine (Task.OnlyAsks.ask _).bind ?_
    rintro _ answer rfl
    exact .pure ⟨answer, rfl, rfl⟩
  refine hbuildType.bind ?_
  rintro _ _ ⟨answer, rfl, rfl⟩
  refine (askAll_asks askModule_asks _).bind fun ofModules modules hmodules => ?_
  refine (askAll_asks askDependency_asks _).bind fun ofDependencies dependencies hdependencies => ?_
  refine .pure ?_
  rw [List.append_nil, List.singleton_append]
  exact .intro hmodules hdependencies

/-! ### What all documents of interviews have in common -/

namespace SaidOfAll
variable {α : Type} {SaidOf : String → Heard → α → Prop} {names : List String} {heard : Heard}
  {entries : List (String × α)}

theorem names_eq (h : SaidOfAll SaidOf names heard entries) : entries.map Prod.fst = names := by
  induction h with
  | nil => rfl
  | cons _ _ ih => exact congrArg _ ih

/-- Every name has an entry of its own in the map of all answers. -/
theorem values_perm (h : SaidOfAll SaidOf names heard entries) (hnames : names.Nodup) :
    (KeyMap.ofList entries).values.Perm (entries.map Prod.snd) :=
  (KeyMap.entries_ofList_perm (h.names_eq ▸ hnames)).map Prod.snd

/-- What is true of every answer is true of the whole map. -/
theorem forall_values {P : α → Prop} (h : SaidOfAll SaidOf names heard entries)
    (hnames : names.Nodup) (hP : ∀ name heard a, SaidOf name heard a → P a) :
    ∀ a ∈ (KeyMap.ofList entries).values, P a := by
  have hall : ∀ a ∈ entries.map Prod.snd, P a := by
    clear hnames
    induction h with
    | nil => exact List.forall_mem_nil _
    | cons ha _ ih => exact List.forall_mem_cons.2 ⟨hP _ _ _ ha, ih⟩
  exact fun a ha => hall a ((h.values_perm hnames).mem_iff.1 ha)

/-- Something is true of an entry if it is true of one in the map. -/
theorem any_values (h : SaidOfAll SaidOf names heard entries) (hnames : names.Nodup)
    (wish : α → Bool) :
    (entries.any fun entry => wish entry.2) = (KeyMap.ofList entries).values.any wish := by
  rw [(h.values_perm hnames).any_eq, List.any_map]
  rfl

/-- One question about each name, and two more about what is enabled. -/
theorem length_heard {isEnabled : α → Bool} (h : SaidOfAll SaidOf names heard entries)
    (hnames : names.Nodup)
    (hlength : ∀ name heard a, SaidOf name heard a →
      heard.length = if isEnabled a = true then 3 else 1) :
    heard.length = names.length + 2 * (KeyMap.ofList entries).values.countP isEnabled := by
  rw [(h.values_perm hnames).countP_eq]
  clear hnames
  induction h with
  | nil => rfl
  | cons ha _ ih =>
    rw [List.length_append, ih, hlength _ _ _ ha, List.map_cons, List.countP_cons, List.length_cons]
    split <;> omega

end SaidOfAll

theorem SaidOfModule.length_heard {name : String} {heard : Heard} {switches : ModuleSwitches}
    (h : SaidOfModule name heard switches) :
    heard.length = if switches.enabled = true then 3 else 1 := by
  cases h <;> rfl

theorem SaidOfDependency.length_heard {name : String} {heard : Heard}
    {switches : DependencySwitches} (h : SaidOfDependency name heard switches) :
    heard.length = if switches.enabled = true then 3 else 1 := by
  cases h <;> rfl

/-- A build type that is known is what the answer says. -/
theorem name_getD_ofName? (answer : String) :
    ((BuildType.ofName? answer).getD .release).name =
      if answer ∈ BuildType.all.map BuildType.name then answer else BuildType.release.name := by
  cases h : BuildType.ofName? answer with
  | some buildType =>
    have hname := BuildType.name_of_ofName? h
    rw [if_pos (hname ▸ List.mem_map_of_mem (List.mem_of_find?_eq_some h))]
    exact hname
  | none =>
    refine (if_neg fun hmem => ?_).symm
    obtain ⟨buildType, -, rfl⟩ := List.mem_map.1 hmem
    rw [BuildType.ofName?_name] at h
    cases h

/-- What is true of a document that comes from an interview with this first answer and so
many questions. -/
structure Sound (first : String) (count : Nat) (doc : Document) : Prop where
  buildType : doc.buildType =
    if first ∈ BuildType.all.map BuildType.name then first else BuildType.release.name
  modules : doc.modules.keys = ["logging", "threadpool", "utils"]
  dependencies : doc.dependencies.keys = ["benchmark", "fmt", "googletest", "spdlog"]
  disabledModules : ∀ switches ∈ doc.modules.values, switches.enabled = false →
    switches.tests = false ∧ switches.examples = false
  disabledDependencies : ∀ switches ∈ doc.dependencies.values, switches.enabled = false →
    switches.tests = some false ∧ switches.examples = some false
  options : doc.options = baselineOptions
    (doc.modules.values.any fun switches => switches.enabled && switches.tests)
    (doc.modules.values.any fun switches => switches.enabled && switches.examples)
  tested : ∀ settings, ((doc.plan settings).step? .test).isSome =
    doc.modules.values.any fun switches => switches.enabled && switches.tests
  warnings : doc.warnings = []
  saved : ∀ path, Document.parse doc.write path = .ok doc
  count : count = 8 + 2 * (doc.modules.values.countP ModuleSwitches.enabled +
    doc.dependencies.values.countP DependencySwitches.enabled)

/-- Whatever was heard, the document that it means is sound. -/
theorem Said.sound {heard : Heard} {doc : Document} (h : Said heard doc) :
    ∃ first rest, heard = (buildTypeQuestion, first) :: rest ∧ Sound first heard.length doc := by
  cases h with
  | @intro first ofModules ofDependencies modules dependencies hmodules hdependencies =>
    have hmoduleNames : projectModules.Nodup := by decide +kernel
    have hdependencyNames : projectDependencies.Nodup := by decide +kernel
    have hkeys : (KeyMap.ofList modules).keys = projectModules :=
      KeyMap.keys_ofList (by rw [hmodules.names_eq]) (by decide +kernel)
    have hoptions : baselineOptions (modules.any fun entry => entry.2.wantsTests)
        (modules.any fun entry => entry.2.wantsExamples) =
          baselineOptions ((KeyMap.ofList modules).values.any ModuleSwitches.wantsTests)
            ((KeyMap.ofList modules).values.any ModuleSwitches.wantsExamples) := by
      rw [hmodules.any_values hmoduleNames, hmodules.any_values hmoduleNames]
    refine ⟨first, _, rfl, {
      buildType := name_getD_ofName? first
      modules := hkeys
      dependencies := ?_
      disabledModules := ?_
      disabledDependencies := ?_
      options := hoptions
      tested := fun settings => ?_
      warnings := ?_
      saved := Document.parse_write_of_baseline rfl rfl rfl
      count := ?_ }⟩
    · refine KeyMap.keys_ofList ?_ (by decide +kernel)
      rw [hdependencies.names_eq]
      decide +kernel
    · refine hmodules.forall_values hmoduleNames fun name heard switches hsaid hdisabled => ?_
      cases hsaid with
      | disabled => exact ⟨rfl, rfl⟩
      | enabled => cases hdisabled
    · refine hdependencies.forall_values hdependencyNames fun name heard switches hsaid hdisabled => ?_
      cases hsaid with
      | disabled => exact ⟨rfl, rfl⟩
      | enabled => cases hdisabled
    · rw [Document.plan_test, Document.testsEnabled_of_baseline hoptions]
      rfl
    · exact Document.warnings_eq_nil rfl rfl (fun name hname => hkeys ▸ hname) rfl rfl
    · have hheardModules := hmodules.length_heard hmoduleNames fun _ _ _ => SaidOfModule.length_heard
      have hheardDependencies := hdependencies.length_heard hdependencyNames
        fun _ _ _ => SaidOfDependency.length_heard
      rw [List.length_cons, List.length_append, hheardModules, hheardDependencies]
      show _ = 8 + 2 * ((KeyMap.ofList modules).values.countP _ +
        (KeyMap.ofList dependencies).values.countP _)
      simp only [projectModules, projectDependencies, List.length_cons, List.length_nil]
      omega

/-! ### Answers that are given in advance -/

end Interview

end BuildConductor
