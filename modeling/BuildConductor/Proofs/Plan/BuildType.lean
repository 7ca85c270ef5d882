import BuildConductor.Proofs.Plan.Agreement

/-! What is said about the build type.

Plans are made with the build type of a document without the blanks around it. The warning
about a type that is not known quotes the type with them, and is given to a known type that
has any. So the warning is true, as `WarnsTruly` says it should be, exactly where no blanks
are around the type (`Document.warnsTruly_iff`). -/
namespace BuildConductor

namespace BuildType

/-- Whether a text is the name of a build type that is known. -/
def IsName (s : String) : Prop :=
  s ∈ all.map name

instance (s : String) : Decidable (IsName s) :=
  inferInstanceAs (Decidable (s ∈ _))

theorem isNone_ofName?_iff (s : String) : (ofName? s).isNone = true ↔ ¬IsName s := by
  simp [ofName?, IsName]

/-- Names have no blanks around them. -/
theorem IsName.trim_eq {s : String} (h : IsName s) : Text.trim s = s := by
  have hall : ∀ s ∈ all.map name, Text.trim s = s := by decide
  exact hall s h

end BuildType

/-- Whether a plan configures with a build type, in the argument that it has for that, and
builds with the same. -/
structure Plan.BuildsAs (plan : Plan) (buildType : String) : Prop where
  configured : ∃ configure, plan.step? .configure = some configure ∧
    (withoutOperands configure.command.args).head? = some (definition buildTypeOption buildType)
  built : ∃ build, plan.step? .build = some build ∧
    operandOf? "--config" build.command.args = some buildType

/-- A plan builds as one type only. -/
theorem Plan.BuildsAs.eq {plan : Plan} {buildType other : String} (h : plan.BuildsAs buildType)
    (hother : plan.BuildsAs other) : buildType = other := by
  obtain ⟨build, hbuild, hoperand⟩ := h.built
  obtain ⟨step, hstep, hsame⟩ := hother.built
  cases hbuild.symm.trans hstep
  exact Option.some.inj (hoperand.symm.trans hsame)

namespace Document

theorem plan_buildsAs (doc : Document) (settings : Settings) :
    (doc.plan settings).BuildsAs doc.effectiveBuildType where
  configured := by
    refine ⟨_, doc.plan_configure settings, ?_⟩
    rw [Step.ofKind_command, Settings.withoutOperands_configureCommand]
    rfl
  built := ⟨_, doc.plan_build settings, settings.operandOf?_buildCommand doc.effectiveBuildType⟩

/-! ### Messages -/

/-- What the messages about a build type begin with. -/
def buildTypeWarningStart : String := "unrecognised build type"

/-- Whether a message is about a build type. -/
def TellsOfBuildType (message : String) : Prop :=
  buildTypeWarningStart.toList <+: message.toList

instance (message : String) : Decidable (TellsOfBuildType message) :=
  inferInstanceAs (Decidable (_ <+: _))

/-- The messages of a document about its build type. -/
def buildTypeMessages (doc : Document) : List String :=
  (doc.warnings.map Warning.message).filter fun message => TellsOfBuildType message

theorem message_buildType (name : String) :
    (Warning.buildType name).message =
      "unrecognised build type `" ++ name ++ "`; passing it to CMake unchanged" := rfl

/-- Messages that are the same quote the same type. -/
theorem buildTypeMessage_injective {name other : String}
    (h : (Warning.buildType name).message = (Warning.buildType other).message) : name = other := by
  rw [message_buildType, message_buildType] at h
  exact (String.append_right_inj _).1 ((String.append_left_inj _).1 h)

theorem not_tellsOfBuildType_append {start : String}
    (hstart : ¬start.toList <+: buildTypeWarningStart.toList)
    (hother : ¬buildTypeWarningStart.toList <+: start.toList) (rest : String) :
    ¬TellsOfBuildType (start ++ rest) := by
  rw [TellsOfBuildType, String.toList_append]
  intro h
  rcases List.prefix_or_prefix_of_prefix h (List.prefix_append start.toList rest.toList) with h | h
  · exact hother h
  · exact hstart h

/-- Warnings about anything else begin differently. -/
theorem tellsOfBuildType_message_iff (warning : Warning) :
    TellsOfBuildType warning.message ↔ ∃ name, warning = .buildType name := by
  cases warning with
  | buildType name =>
    refine ⟨fun _ => ⟨name, rfl⟩, fun _ => ?_⟩
    rw [TellsOfBuildType, message_buildType, String.append_assoc, String.toList_append]
    exact List.IsPrefix.trans (by decide) (List.prefix_append _ _)
  | platform name =>
    rw [show (Warning.platform name).message = "unrecognised platform `" ++ (name ++ "`") from
      String.append_assoc ..]
    exact iff_of_false (not_tellsOfBuildType_append (by decide) (by decide) _) nofun
  | unknownKey key =>
    rw [show (Warning.unknownKey key).message = "unknown configuration key `" ++
      (key ++ "` is ignored") from String.append_assoc ..]
    exact iff_of_false (not_tellsOfBuildType_append (by decide) (by decide) _) nofun
  | reserved name flag =>
    obtain ⟨rest, hmessage⟩ :
        ∃ rest, (Warning.reserved name flag).message = "module `" ++ rest :=
      ⟨_, (String.append_assoc ..).trans ((String.append_assoc ..).trans (String.append_assoc ..))⟩
    rw [hmessage]
    exact iff_of_false (not_tellsOfBuildType_append (by decide) (by decide) _) nofun

/-- The first warning is the one about the build type, unless that is known as it stands in
the document, or blank. -/
theorem warnings_eq_append (doc : Document) :
    ∃ others, doc.warnings =
      (if ¬BuildType.IsName doc.buildType ∧ Text.trim doc.buildType ≠ "" then
        [.buildType doc.buildType]
      else
        []) ++ others ∧ ∀ warning ∈ others, ¬∃ name, warning = .buildType name := by
  have hfirst : ((BuildType.ofName? doc.buildType).isNone && !(Text.trim doc.buildType).isEmpty) =
      true ↔ ¬BuildType.IsName doc.buildType ∧ Text.trim doc.buildType ≠ "" := by
    simp [← BuildType.isNone_ofName?_iff]
  simp only [warnings, hfirst, List.append_assoc]
  refine ⟨_, rfl, fun warning hwarning => ?_⟩
  rcases List.mem_append.1 hwarning with hplatform | hwarning
  · split at hplatform
    · rw [List.mem_singleton.1 hplatform]
      nofun
    · cases hplatform
  rcases List.mem_append.1 hwarning with hkey | hswitch
  · obtain ⟨key, -, rfl⟩ := List.mem_map.1 hkey
    nofun
  · obtain ⟨flag, -, rfl⟩ := List.mem_map.1 hswitch
    nofun

/-- So that is the only message about the build type, and it quotes the document. -/
theorem buildTypeMessages_eq (doc : Document) :
    doc.buildTypeMessages =
      if ¬BuildType.IsName doc.buildType ∧ Text.trim doc.buildType ≠ "" then
        [(Warning.buildType doc.buildType).message]
      else
        [] := by
  obtain ⟨others, hwarnings, hothers⟩ := doc.warnings_eq_append
  have hnone : (others.map Warning.message).filter (fun message => TellsOfBuildType message) = [] := by
    refine List.filter_eq_nil_iff.2 fun message hmessage htells => ?_
    obtain ⟨warning, hwarning, rfl⟩ := List.mem_map.1 hmessage
    exact hothers warning hwarning ((tellsOfBuildType_message_iff warning).1 (of_decide_eq_true htells))
  rw [buildTypeMessages, hwarnings, List.map_append, List.filter_append, hnone, List.append_nil]
  split
  · have hself := (tellsOfBuildType_message_iff (.buildType doc.buildType)).2 ⟨_, rfl⟩
    exact List.filter_cons_of_pos (decide_eq_true hself)
  · rfl

/-! ### Whether they are true -/

/-- Whether there are blanks around the build type of a document. -/
def PadsBuildType (doc : Document) : Prop :=
  Text.trim doc.buildType ≠ doc.buildType ∧ Text.trim doc.buildType ≠ ""

instance (doc : Document) : Decidable doc.PadsBuildType :=
  inferInstanceAs (Decidable (_ ∧ _))

/-- Whether a document that is planned so is warned about truly: exactly if the type that is
planned with is not known, and in words that quote what the plan builds as. -/
structure WarnsTruly (doc : Document) (plan : Plan) : Prop where
  told : doc.buildTypeMessages ≠ [] ↔ ¬BuildType.IsName doc.effectiveBuildType
  quoted : ∀ message ∈ doc.buildTypeMessages,
    ∃ name, message = (Warning.buildType name).message ∧ plan.BuildsAs name

theorem effectiveBuildType_of_blank {doc : Document} (h : Text.trim doc.buildType = "") :
    doc.effectiveBuildType = BuildType.release.name := by
  simp [effectiveBuildType, h]

theorem effectiveBuildType_of_not_blank {doc : Document} (h : Text.trim doc.buildType ≠ "") :
    doc.effectiveBuildType = Text.trim doc.buildType := by
  simp [effectiveBuildType, h]

/-- There is a message about a known type too if there are blanks around it. -/
theorem buildTypeMessages_ne_nil_iff (doc : Document) :
    doc.buildTypeMessages ≠ [] ↔
      ¬BuildType.IsName doc.effectiveBuildType ∨ doc.PadsBuildType := by
  rw [doc.buildTypeMessages_eq]
  by_cases hblank : Text.trim doc.buildType = ""
  · have hrelease : BuildType.IsName BuildType.release.name := by decide
    simp [effectiveBuildType_of_blank hblank, hblank, PadsBuildType, hrelease]
  · rw [effectiveBuildType_of_not_blank hblank]
    by_cases hpadded : Text.trim doc.buildType = doc.buildType
    · simp [PadsBuildType, hpadded, hpadded ▸ hblank]
    · have hunknown : ¬BuildType.IsName doc.buildType := fun h => hpadded h.trim_eq
      simp [PadsBuildType, hpadded, hblank, hunknown]

/-- The message quotes what is planned with unless there are blanks around that. -/
theorem buildTypeMessages_quote {doc : Document} (h : ¬doc.PadsBuildType) :
    ∀ message ∈ doc.buildTypeMessages,
      message = (Warning.buildType doc.effectiveBuildType).message := by
  intro message hmessage
  rw [doc.buildTypeMessages_eq] at hmessage
  split at hmessage
  · rename_i hwarned
    have hsame : Text.trim doc.buildType = doc.buildType :=
      Decidable.not_not.1 fun hpadded => h ⟨hpadded, hwarned.2⟩
    rw [effectiveBuildType_of_not_blank hwarned.2, hsame]
    exact List.mem_singleton.1 hmessage
  · cases hmessage

theorem not_warnsTruly {doc : Document} (settings : Settings) (h : doc.PadsBuildType) :
    ¬doc.WarnsTruly (doc.plan settings) := by
  intro htruly
  have hunknown : ¬BuildType.IsName doc.buildType := fun hname => h.1 hname.trim_eq
  have hmessage : (Warning.buildType doc.buildType).message ∈ doc.buildTypeMessages := by
    rw [doc.buildTypeMessages_eq, if_pos ⟨hunknown, h.2⟩]
    exact List.mem_singleton_self _
  obtain ⟨name, hsame, hbuilds⟩ := htruly.quoted _ hmessage
  obtain rfl := buildTypeMessage_injective hsame
  have heffective := (doc.plan_buildsAs settings).eq hbuilds
  rw [effectiveBuildType_of_not_blank h.2] at heffective
  exact h.1 heffective

/-- Of its build type a document says at most that it is not known, and it says so of all
that are not known, and of those that have blanks around them. Plans are made with the type
without the blanks. So what is said is true exactly where there are none. -/
theorem warnsTruly_iff (doc : Document) (settings : Settings) :
    (doc.buildTypeMessages = [] ∨
        doc.buildTypeMessages = [(Warning.buildType doc.buildType).message]) ∧
      (doc.buildTypeMessages ≠ [] ↔
        ¬BuildType.IsName doc.effectiveBuildType ∨ doc.PadsBuildType) ∧
      (doc.plan settings).BuildsAs doc.effectiveBuildType ∧
      (doc.WarnsTruly (doc.plan settings) ↔ ¬doc.PadsBuildType) := by
  have htold := doc.buildTypeMessages_ne_nil_iff
  have hbuilds := doc.plan_buildsAs settings
  refine ⟨?_, htold, hbuilds, fun htruly hpadded => not_warnsTruly settings hpadded htruly,
    fun hplain => ?_⟩
  · rw [doc.buildTypeMessages_eq]
    split
    · exact .inr rfl
    · exact .inl rfl
  · have hquoted := buildTypeMessages_quote hplain
    exact ⟨htold.trans (or_iff_left hplain), fun message hmessage =>
      ⟨_, hquoted message hmessage, hbuilds⟩⟩

/-- A known type with blanks around it is said not to be known and to be passed on as it
is, while the plan configures and builds with the type alone. -/
theorem warns_of_padded_debug :
    let doc := {Document.empty with buildType := " Debug "}
    doc.effectiveBuildType = "Debug" ∧ BuildType.IsName "Debug" ∧
      doc.warnings.map Warning.message =
        ["unrecognised build type ` Debug `; passing it to CMake unchanged"] ∧
      (doc.plan appSettings).BuildsAs "Debug" ∧ ¬doc.WarnsTruly (doc.plan appSettings) := by
  intro doc
  have heffective : doc.effectiveBuildType = "Debug" := by decide +kernel
  have hpadded : doc.PadsBuildType := by decide +kernel
  exact ⟨heffective, by decide, by decide +kernel, heffective ▸ doc.plan_buildsAs appSettings,
    not_warnsTruly appSettings hpadded⟩

end Document

end BuildConductor
