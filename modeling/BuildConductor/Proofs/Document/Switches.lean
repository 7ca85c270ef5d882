import BuildConductor.Document.Basic

/-! What becomes of the switches of modules.

A flag of a module that the project or the options claim is withheld from the build tool.
`Sorts` goes through the switches of all modules in order and sends each of them to one of
two places: to what is passed, or to what is warned about. `switches_sorted` shows that a
document does just that, so no switch is lost and none is both passed and warned about. -/
namespace BuildConductor.Document

/-- Whether a flag is one for the whole project, or has an option of its own. -/
def Claims (doc : Document) (flag : String) : Prop :=
  flag = testsOption ∨ flag = examplesOption ∨ flag ∈ doc.options.keys

/-- Switches of modules, those of them that are passed, and what is said of the others:
one rule for each place that the next switch can go to. -/
inductive Sorts (doc : Document) :
    List (String × String × Bool) → List (String × Bool) → List String → Prop
  | done : Sorts doc [] [] []
  | passed {name flag : String} {on : Bool} {rest : List (String × String × Bool)}
    {passed : List (String × Bool)} {said : List String} (hfree : ¬doc.Claims flag)
    (hrest : Sorts doc rest passed said) :
    Sorts doc ((name, flag, on) :: rest) ((flag, on) :: passed) said
  | withheld {name flag : String} {on : Bool} {rest : List (String × String × Bool)}
    {passed : List (String × Bool)} {said : List String} (hclaimed : doc.Claims flag)
    (hrest : Sorts doc rest passed said) :
    Sorts doc ((name, flag, on) :: rest) passed
      (s!"module `{name}` would override `{flag}`; its switch is not passed to CMake" :: said)

variable {doc : Document}

theorem isReserved_iff {flag : String} : doc.isReserved flag = true ↔ doc.Claims flag := by
  simp [isReserved, Claims, KeyMap.contains, KeyMap.keys, or_assoc]

/-- The warnings about switches. -/
def switchWarnings (doc : Document) : List Warning :=
  (doc.allModuleFlags.filter fun flag => doc.isReserved flag.2.1).map
    fun flag => .reserved flag.1 flag.2.1

/-- Whether a warning is about something else than a switch. -/
def Warning.isGeneral : Warning → Bool
  | .reserved _ _ => false
  | _ => true

/-- Passing what is not reserved, and warning about what is, sorts switches. -/
theorem sorts_filter (flags : List (String × String × Bool)) :
    doc.Sorts flags ((flags.map Prod.snd).filter fun flag => !doc.isReserved flag.1)
      (((flags.filter fun flag => doc.isReserved flag.2.1).map
        fun flag => Warning.reserved flag.1 flag.2.1).map Warning.message) := by
  induction flags with
  | nil => exact .done
  | cons first rest ih =>
    obtain ⟨name, flag, on⟩ := first
    cases hreserved : doc.isReserved flag with
    | true =>
      simp only [List.map_cons, List.filter_cons, hreserved, Bool.not_true]
      exact .withheld (isReserved_iff.1 hreserved) ih
    | false =>
      have hfree : ¬doc.Claims flag := fun hclaimed => by
        rw [isReserved_iff.2 hclaimed] at hreserved
        cases hreserved
      simp only [List.map_cons, List.filter_cons, hreserved, Bool.not_false]
      exact .passed hfree ih

/-- Every switch goes to one place. -/
theorem Sorts.length_add_length {flags : List (String × String × Bool)}
    {passed : List (String × Bool)} {said : List String} (h : doc.Sorts flags passed said) :
    passed.length + said.length = flags.length := by
  induction h with
  | done => rfl
  | passed _ _ ih =>
    simp only [List.length_cons]
    omega
  | withheld _ _ ih =>
    simp only [List.length_cons]
    omega

theorem length_flags (m : ModuleSwitches) (name : String) :
    (m.flags name).length = if m.enabled then 3 else 1 := by
  unfold ModuleSwitches.flags
  split <;> rfl

/-- A module has one switch, and two more where it is enabled. -/
theorem length_allModuleFlags (doc : Document) :
    doc.allModuleFlags.length =
      doc.modules.entries.length + 2 * (doc.modules.entries.filter (·.2.enabled)).length := by
  unfold allModuleFlags
  induction doc.modules.entries with
  | nil => rfl
  | cons entry rest ih =>
    rw [List.flatMap_cons, List.length_append, ih, List.length_map, length_flags,
      List.filter_cons, List.length_cons]
    split
    · rw [List.length_cons]
      omega
    · omega

/-- The warnings about switches come after all others. -/
theorem warnings_eq (doc : Document) :
    doc.warnings = doc.warnings.filter Warning.isGeneral ++ doc.switchWarnings := by
  obtain ⟨general, hwarnings, hgeneral⟩ : ∃ general,
      doc.warnings = general ++ doc.switchWarnings ∧
        ∀ warning ∈ general, warning.isGeneral = true := by
    refine ⟨_, rfl, fun warning hwarning => ?_⟩
    rcases List.mem_append.1 hwarning with hfirst | hkey
    · rcases List.mem_append.1 hfirst with hbuildType | hplatform
      · split at hbuildType
        · rw [List.mem_singleton.1 hbuildType]
          rfl
        · cases hbuildType
      · split at hplatform
        · rw [List.mem_singleton.1 hplatform]
          rfl
        · cases hplatform
    · obtain ⟨key, -, rfl⟩ := List.mem_map.1 hkey
      rfl
  have hswitches : doc.switchWarnings.filter Warning.isGeneral = [] := by
    refine List.filter_eq_nil_iff.2 fun warning hwarning => ?_
    obtain ⟨flag, -, rfl⟩ := List.mem_map.1 hwarning
    exact Bool.false_ne_true
  rw [hwarnings, List.filter_append, hswitches, List.append_nil, List.filter_eq_self.2 hgeneral]

/-- The switches of all modules, in the order of the modules, are sorted: each is passed
to the build tool, or warned about after all else. So there are as many switches passed
and warned about as there are modules, and two more for each that is enabled. -/
theorem switches_sorted (doc : Document) :
    ∃ said, doc.warnings.map Warning.message =
        (doc.warnings.filter Warning.isGeneral).map Warning.message ++ said ∧
      doc.Sorts (doc.modules.entries.flatMap fun entry =>
        (entry.2.flags entry.1).map fun flag => (entry.1, flag)) doc.moduleFlags said ∧
      doc.moduleFlags.length + said.length =
        doc.modules.entries.length + 2 * (doc.modules.entries.filter (·.2.enabled)).length := by
  have hsorts : doc.Sorts doc.allModuleFlags doc.moduleFlags
      (doc.switchWarnings.map Warning.message) := sorts_filter doc.allModuleFlags
  have hwarnings := congrArg (List.map Warning.message) doc.warnings_eq
  rw [List.map_append] at hwarnings
  exact ⟨_, hwarnings, hsorts, hsorts.length_add_length.trans doc.length_allModuleFlags⟩

end BuildConductor.Document
