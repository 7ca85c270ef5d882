import BuildConductor.Proofs.Plan.Agreement

/-! What is defined more than once.

The build tool heeds the last definition of a variable, and the options of a document come
first. The flags of modules make way for them, the flags of libraries do not: an option
prevails unless a library, or a name with an equals sign in it, says something else later
(`option_prevails_iff`). Nothing keeps the flags of modules from each other: what a module
defines is new unless two modules lead to one flag, or an equals sign cuts a name short
(`definesAfresh_iff`). -/
namespace BuildConductor

/-! ### Options -/

/-- A key of a map has all smaller ones before it, and all larger ones behind. -/
theorem KeyMap.exists_split {α : Type} {m : KeyMap α} {key : String} {v : α}
    (h : m.find? key = some v) :
    ∃ smaller larger, m.entries = smaller ++ (key, v) :: larger ∧
      (∀ entry ∈ smaller, entry.1 < key) ∧ ∀ entry ∈ larger, key < entry.1 := by
  obtain ⟨smaller, larger, hentries⟩ := List.append_of_mem (KeyMap.mem_entries_iff.2 h)
  have hascend := m.ascend
  rw [KeysAscend, hentries, List.pairwise_append] at hascend
  obtain ⟨-, hbehind, hbefore⟩ := hascend
  exact ⟨smaller, larger, hentries,
    fun entry hentry => hbefore entry hentry _ (List.mem_cons_self ..),
    (List.pairwise_cons.1 hbehind).1⟩

/-- Smaller keys do not set a key. -/
theorem not_sets_of_lt {key other : String} (h : other < key) : ¬Sets key other := by
  rintro (hsame | hextends)
  · exact String.ne_of_lt h hsame
  · exact String.lt_irrefl _ (String.lt_trans h hextends.lt)

/-- The keys that are larger than a key set it only by extending it, and no other key does
that. -/
theorem KeyMap.forall_larger_not_sets_iff {α : Type} {m : KeyMap α} {key : String} {v : α}
    {smaller larger : List (String × α)} (hentries : m.entries = smaller ++ (key, v) :: larger)
    (hsmaller : ∀ entry ∈ smaller, entry.1 < key) (hlarger : ∀ entry ∈ larger, key < entry.1) :
    (∀ entry ∈ larger, ¬Sets key entry.1) ↔ ∀ other ∈ m.keys, ¬Extends key other := by
  rw [KeyMap.keys, hentries, List.forall_mem_map, List.forall_mem_append, List.forall_mem_cons]
  constructor
  · intro hnone
    refine ⟨fun entry hentry hextends => ?_, fun hextends => String.lt_irrefl _ hextends.lt,
      fun entry hentry hextends => hnone entry hentry (.inr hextends)⟩
    exact not_sets_of_lt (hsmaller entry hentry) (.inr hextends)
  · rintro ⟨-, -, hnone⟩ entry hentry (hsame | hextends)
    · exact String.ne_of_lt (hlarger entry hentry) hsame.symm
    · exact hnone entry hentry hextends

namespace Document

/-- The flag of a module is none of the options. -/
theorem ne_of_mem_moduleFlags {doc : Document} {key : String} (hkey : key ∈ doc.options.keys)
    {flag : String × Bool} (h : flag ∈ doc.moduleFlags) : flag.1 ≠ key := by
  rintro rfl
  obtain ⟨entry, hentry, hsame⟩ := List.mem_map.1 hkey
  have hcontains : doc.options.contains flag.1 = true :=
    List.any_eq_true.2 ⟨entry, hentry, by simpa using hsame⟩
  have hreserved := (moduleFlags_names h).1
  simp [isReserved, hcontains] at hreserved

/-- An option is defined where no argument before has defined it, and nothing after it
defines it again unless another name can be read so: an option or a flag of a module that
extends it, or the flag of a library. The last of those is what the build tool heeds. -/
theorem option_prevails_iff {doc : Document} {key : String} {value : OptionValue}
    (hfind : doc.options.find? key = some value) (hplain : '=' ∉ key.toList) :
    ∃ before after, doc.definitions = before ++ definition key value.render :: after ∧
      (∀ arg ∈ before, definedValue? key arg = none) ∧
      ((∀ arg ∈ after, definedValue? key arg = none) ↔
        (∀ other ∈ doc.options.keys, ¬Extends key other) ∧
          (∀ name ∈ doc.dependencies.keys, ¬Sets key (dependencyFlag name)) ∧
          ∀ flag ∈ doc.moduleFlags, ¬Extends key flag.1) ∧
      lastDefined? key doc.definitions = some ((lastDefined? key after).getD value.render) := by
  obtain ⟨smaller, larger, hentries, hsmaller, hlarger⟩ := KeyMap.exists_split hfind
  have hkey : key ∈ doc.options.keys :=
    List.mem_map_of_mem (KeyMap.mem_entries_iff.2 hfind)
  let after := (larger.map fun entry => definition entry.1 entry.2.render) ++
    (doc.dependencies.entries.map fun entry =>
      definition (dependencyFlag entry.1) (onOff entry.2.enabled)) ++
    doc.moduleFlags.map fun flag => definition flag.1 (onOff flag.2)
  have hdefinitions : doc.definitions =
      (smaller.map fun entry => definition entry.1 entry.2.render) ++
        definition key value.render :: after := by
    simp [definitions, hentries, after]
  refine ⟨_, after, hdefinitions, ?_, ?_, ?_⟩
  · exact (forall_definedValue?_eq_none_iff hplain).2 fun entry hentry =>
      not_sets_of_lt (hsmaller entry hentry)
  · have hmodules : (∀ flag ∈ doc.moduleFlags, ¬Sets key flag.1) ↔
        ∀ flag ∈ doc.moduleFlags, ¬Extends key flag.1 :=
      forall₂_congr fun flag hflag =>
        not_congr (or_iff_right (ne_of_mem_moduleFlags hkey hflag))
    rw [List.forall_mem_append, List.forall_mem_append, forall_definedValue?_eq_none_iff hplain,
      forall_definedValue?_eq_none_iff hplain, forall_definedValue?_eq_none_iff hplain,
      KeyMap.forall_larger_not_sets_iff hentries hsmaller hlarger, hmodules, and_assoc]
    simp only [KeyMap.keys, List.forall_mem_map]
  · rw [hdefinitions]
    exact lastDefined?_append_cons key value.render _ after

/-- An option for a flag of a module, which makes way for it. -/
def switchedDocument : Document :=
  {Document.empty with
    modules := .ofList [("core", {})]
    dependencies := .ofList [("fmt", {})]
    options := .ofList [("UTOOLKIT_BUILD_CORE", .bool false), ("UTOOLKIT_ENABLE_XML", .bool true)]}

theorem option_prevails_over_module :
    let key := "UTOOLKIT_BUILD_CORE"
    switchedDocument.options.find? key = some (.bool false) ∧ '=' ∉ key.toList ∧
      ∃ before after, switchedDocument.definitions = before ++ definition key "OFF" :: after ∧
        (∀ arg ∈ after, definedValue? key arg = none) ∧
        lastDefined? key switchedDocument.definitions = some ((lastDefined? key after).getD "OFF") := by
  intro key
  have hfind : switchedDocument.options.find? key = some (.bool false) := by decide +kernel
  have hplain : '=' ∉ key.toList := by decide
  have hothers : (∀ other ∈ switchedDocument.options.keys, ¬Extends key other) ∧
      (∀ name ∈ switchedDocument.dependencies.keys, ¬Sets key (dependencyFlag name)) ∧
      ∀ flag ∈ switchedDocument.moduleFlags, ¬Extends key flag.1 := by decide +kernel
  obtain ⟨before, after, hdefinitions, -, hafter, hlast⟩ := option_prevails_iff hfind hplain
  exact ⟨hfind, hplain, before, after, hdefinitions, hafter.2 hothers, hlast⟩

/-- The flag of a library does not make way for an option: it comes later, and the build
tool heeds it. -/
theorem option_overridden :
    let key := "UTOOLKIT_ENABLE_FMT"
    let doc := {Document.empty with
      dependencies := .ofList [("fmt", {})], options := .ofList [(key, .bool false)]}
    Document.parse ("\x7b\"cmake_options\": \x7b\"UTOOLKIT_ENABLE_FMT\": false\x7d, " ++
        "\"third_party\": \x7b\"fmt\": \x7b\x7d\x7d\x7d") ⟨"a.json"⟩ = .ok doc ∧
      doc.options.find? key = some (.bool false) ∧ '=' ∉ key.toList ∧
      doc.definitions = [definition key "OFF", definition key "ON"] ∧
      ¬∃ before after, doc.definitions = before ++ definition key "OFF" :: after ∧
        ∀ arg ∈ after, definedValue? key arg = none := by
  intro key doc
  have hparse : Document.parse ("\x7b\"cmake_options\": \x7b\"UTOOLKIT_ENABLE_FMT\": false\x7d, " ++
      "\"third_party\": \x7b\"fmt\": \x7b\x7d\x7d\x7d") ⟨"a.json"⟩ = .ok doc :=
    Document.parse_of_toOption (by decide +kernel) ⟨"a.json"⟩
  refine ⟨hparse, by decide +kernel, by decide, by decide +kernel, ?_⟩
  rintro ⟨before, after, hdefinitions, hafter⟩
  have hheeded : lastDefined? key doc.definitions = some "ON" := by decide +kernel
  have hnone : lastDefined? key after = none := by
    rw [lastDefined?, List.filterMap_eq_nil_iff.2 hafter, List.getLast?_nil]
  rw [hdefinitions, lastDefined?_append_cons, hnone] at hheeded
  revert hheeded
  decide

end Document

/-! ### Modules -/

/-- The variable that a name stands for in a definition: an equals sign ends it. -/
def variableOf (name : String) : String :=
  String.ofList (name.toList.takeWhile (· != '='))

/-- The variable that an argument defines: what stands between `-D` and the first equals
sign. -/
def definedVariable? (arg : String) : Option String :=
  match arg.toList with
  | '-' :: 'D' :: rest => some (String.ofList (rest.takeWhile (· != '=')))
  | _ => none

theorem variableOf_append {start : String} (h : '=' ∉ start.toList) (rest : String) :
    variableOf (start ++ rest) = start ++ variableOf rest := by
  have hstart : ∀ c ∈ start.toList, (c != '=') = true := fun c hc =>
    bne_iff_ne.2 fun heq => h (heq ▸ hc)
  rw [← String.toList_inj]
  simp [variableOf, List.takeWhile_append_of_pos hstart]

theorem variableOf_eq_self {name : String} (h : '=' ∉ name.toList) : variableOf name = name := by
  have hname := variableOf_append h ""
  rwa [show variableOf "" = "" from rfl, String.append_empty] at hname

theorem definedVariable?_definition (name value : String) :
    definedVariable? (definition name value) = some (variableOf name) := by
  have hcut (cs more : List Char) :
      (cs ++ '=' :: more).takeWhile (· != '=') = cs.takeWhile (· != '=') := by
    induction cs with
    | nil => rfl
    | cons c cs ih => rw [List.cons_append, List.takeWhile_cons, List.takeWhile_cons, ih]
  simp only [definedVariable?, toList_definition, hcut, variableOf]

/-- Whether an element of the second of two lists is always told apart from all elements
before it. -/
theorem forall_before_ne_iff {α β : Type} (f : α → β) (first second : List α) :
    (∀ before a after, first ++ second = before ++ a :: after → first.length ≤ before.length →
        ∀ b ∈ before, f b ≠ f a) ↔
      (∀ b ∈ first, ∀ a ∈ second, f b ≠ f a) ∧ second.Pairwise fun b a => f b ≠ f a := by
  constructor
  · intro h
    constructor
    · intro b hb a ha
      obtain ⟨middle, after, rfl⟩ := List.append_of_mem ha
      exact h (first ++ middle) a after (by simp) (by simp) b (List.mem_append_left _ hb)
    · rw [List.pairwise_iff_getElem]
      intro i j hi hj hij
      have hsplit : first ++ second =
          first ++ second.take j ++ second[j] :: second.drop (j + 1) := by
        rw [List.append_assoc, List.getElem_cons_drop, List.take_append_drop]
      refine h _ _ _ hsplit (by simp) _ (List.mem_append_right _ ?_)
      exact List.mem_take_iff_getElem.2 ⟨i, by omega, rfl⟩
  · rintro ⟨hfirst, hsecond⟩ before a after hsplit hlength b hb
    obtain ⟨middle, rfl⟩ : first <+: before :=
      List.prefix_of_prefix_length_le (List.prefix_append first second)
        (hsplit.symm ▸ List.prefix_append before (a :: after)) hlength
    rw [List.append_assoc, List.append_cancel_left_eq] at hsplit
    subst hsplit
    rcases List.mem_append.1 hb with hb | hb
    · exact hfirst b hb a (by simp)
    · exact (List.pairwise_append.1 hsecond).2.2 b hb a (List.mem_cons_self ..)

namespace Document

/-- Whether no definition for a module defines a variable that an argument before it has
defined. The definitions for modules come after those for options and libraries. -/
def DefinesAfresh (doc : Document) : Prop :=
  ∀ before arg after, doc.definitions = before ++ arg :: after →
    doc.options.entries.length + doc.dependencies.entries.length ≤ before.length →
    ∀ earlier ∈ before, definedVariable? earlier ≠ definedVariable? arg

/-- What a module defines is no variable of a library. -/
theorem variableOf_dependencyFlag_ne {doc : Document} {flag : String × Bool}
    (h : flag ∈ doc.moduleFlags) (name : String) :
    variableOf (dependencyFlag name) ≠ variableOf flag.1 := by
  obtain ⟨-, other, -, ending, -, hflag⟩ := moduleFlags_names h
  have hmodule : variableOf flag.1 = moduleFlagStart ++ variableOf (Text.upper other ++ ending) := by
    rw [hflag, ModuleSwitches.mainFlag, String.append_assoc, variableOf_append (by decide)]
  rw [hmodule, dependencyFlag, variableOf_append (by decide)]
  intro hsame
  -- The two differ at the first letter after `UTOOLKIT_`.
  have hletter := congrArg (fun s : String => s.toList[9]?) hsame
  simp only [String.toList_append] at hletter
  cases hletter

/-- What a module defines is new exactly where no option, no other flag of the module and no
module before it defines the same variable. -/
theorem definesAfresh_iff_variables (doc : Document) :
    doc.DefinesAfresh ↔
      (∀ key ∈ doc.options.keys, ∀ flag ∈ doc.moduleFlags, variableOf key ≠ variableOf flag.1) ∧
      (∀ entry ∈ doc.modules.entries,
        (doc.passedFlags entry).Pairwise fun a b => variableOf a.1 ≠ variableOf b.1) ∧
      doc.modules.entries.Pairwise fun a b => ∀ flag ∈ doc.passedFlags a,
        ∀ other ∈ doc.passedFlags b, variableOf flag.1 ≠ variableOf other.1 := by
  let settled := (doc.options.entries.map fun entry => definition entry.1 entry.2.render) ++
    doc.dependencies.entries.map fun entry =>
      definition (dependencyFlag entry.1) (onOff entry.2.enabled)
  have hlength : settled.length =
      doc.options.entries.length + doc.dependencies.entries.length := by
    simp [settled]
  unfold DefinesAfresh
  rw [← hlength, ← List.pairwise_flatMap, ← moduleFlags_eq_flatMap]
  refine (forall_before_ne_iff definedVariable? settled _).trans ?_
  rw [List.pairwise_map]
  simp only [settled, List.forall_mem_append, List.forall_mem_map, definedVariable?_definition,
    KeyMap.keys, ne_eq, Option.some.injEq]
  refine and_congr_left fun _ => and_iff_left fun entry _ flag hflag => ?_
  exact variableOf_dependencyFlag_ne hflag entry.1

/-- Without an equals sign in its name, the flags of a module are different variables. -/
theorem pairwise_passedFlags {doc : Document} {entry : String × ModuleSwitches}
    (h : '=' ∉ (ModuleSwitches.mainFlag entry.1).toList) :
    (doc.passedFlags entry).Pairwise fun a b => variableOf a.1 ≠ variableOf b.1 := by
  have hvariable (ending : String) (hending : '=' ∉ ending.toList) :
      variableOf (ModuleSwitches.mainFlag entry.1 ++ ending) =
        ModuleSwitches.mainFlag entry.1 ++ ending := by
    rw [variableOf_append h, variableOf_eq_self hending]
  have hlonger (ending : String) (hending : ending ≠ "") :
      ModuleSwitches.mainFlag entry.1 ≠ ModuleSwitches.mainFlag entry.1 ++ ending := by
    intro hsame
    have hlist := congrArg String.toList hsame
    rw [String.toList_append, List.self_eq_append_right] at hlist
    exact hending (String.toList_inj.1 hlist)
  refine List.Pairwise.filter _ ?_
  unfold ModuleSwitches.flags
  split
  · simp [variableOf_eq_self h, hvariable "_TESTS" (by decide), hvariable "_EXAMPLES" (by decide),
      hlonger "_TESTS" (by decide), hlonger "_EXAMPLES" (by decide)]
  · exact List.pairwise_singleton _ _

theorem mem_passedFlags {doc : Document} {entry : String × ModuleSwitches}
    (hentry : entry ∈ doc.modules.entries) {flag : String × Bool}
    (hflag : flag ∈ doc.passedFlags entry) : flag ∈ doc.moduleFlags := by
  rw [moduleFlags_eq_flatMap]
  exact List.mem_flatMap_of_mem hentry hflag

/-- Without equals signs in the names of modules, the flags of modules are variables. -/
theorem variableOf_moduleFlag {doc : Document}
    (hmodules : ∀ name ∈ doc.modules.keys, '=' ∉ (ModuleSwitches.mainFlag name).toList)
    {flag : String × Bool} (h : flag ∈ doc.moduleFlags) : variableOf flag.1 = flag.1 := by
  obtain ⟨-, name, hname, ending, hending, hflag⟩ := moduleFlags_names h
  have hplain : ∀ ending ∈ ["", "_TESTS", "_EXAMPLES"], '=' ∉ ending.toList := by decide
  rw [hflag, variableOf_append (hmodules name hname), variableOf_eq_self (hplain ending hending)]

/-- What a module defines is new exactly where no option, no other flag of the module and no
module before it defines the same variable; no library does. Where no name of an option or
a module has an equals sign, only modules can get in each other's way: two that lead to one
flag which is passed for both. -/
theorem definesAfresh_iff (doc : Document) :
    (doc.DefinesAfresh ↔
      (∀ key ∈ doc.options.keys, ∀ flag ∈ doc.moduleFlags, variableOf key ≠ variableOf flag.1) ∧
      (∀ entry ∈ doc.modules.entries,
        (doc.passedFlags entry).Pairwise fun a b => variableOf a.1 ≠ variableOf b.1) ∧
      doc.modules.entries.Pairwise fun a b => ∀ flag ∈ doc.passedFlags a,
        ∀ other ∈ doc.passedFlags b, variableOf flag.1 ≠ variableOf other.1) ∧
    ((∀ key ∈ doc.options.keys, '=' ∉ key.toList) →
      (∀ name ∈ doc.modules.keys, '=' ∉ (ModuleSwitches.mainFlag name).toList) →
      (doc.DefinesAfresh ↔ doc.modules.entries.Pairwise fun a b =>
        ∀ flag ∈ doc.passedFlags a, ∀ other ∈ doc.passedFlags b, flag.1 ≠ other.1)) := by
  refine ⟨doc.definesAfresh_iff_variables, fun hoptions hmodules => ?_⟩
  have hfirst : ∀ key ∈ doc.options.keys, ∀ flag ∈ doc.moduleFlags,
      variableOf key ≠ variableOf flag.1 := by
    intro key hkey flag hflag
    rw [variableOf_eq_self (hoptions key hkey), variableOf_moduleFlag hmodules hflag]
    exact (ne_of_mem_moduleFlags hkey hflag).symm
  have hown : ∀ entry ∈ doc.modules.entries,
      (doc.passedFlags entry).Pairwise fun a b => variableOf a.1 ≠ variableOf b.1 :=
    fun entry hentry => pairwise_passedFlags (hmodules entry.1 (List.mem_map_of_mem hentry))
  refine doc.definesAfresh_iff_variables.trans ((and_iff_right hfirst).trans
    ((and_iff_right hown).trans (List.Pairwise.iff_of_mem fun ha hb => ?_)))
  refine forall₂_congr fun flag hflag => forall₂_congr fun other hother => ?_
  rw [variableOf_moduleFlag hmodules (mem_passedFlags ha hflag),
    variableOf_moduleFlag hmodules (mem_passedFlags hb hother)]

/-- Names that differ in case alone lead to one flag: what the first module has switched off
the second switches on. -/
theorem definesAfresh_fails :
    let doc := {Document.empty with
      modules := .ofList [("CORE", ⟨false, true, true⟩), ("core", {})]}
    Document.parse ("\x7b\"modules\": \x7b\"CORE\": \x7b\"enabled\": false\x7d, " ++
        "\"core\": \x7b\x7d\x7d\x7d") ⟨"a.json"⟩ = .ok doc ∧
      doc.definitions = [definition "UTOOLKIT_BUILD_CORE" "OFF", definition "UTOOLKIT_BUILD_CORE" "ON",
        definition "UTOOLKIT_BUILD_CORE_TESTS" "ON",
        definition "UTOOLKIT_BUILD_CORE_EXAMPLES" "ON"] ∧
      ¬doc.DefinesAfresh := by
  intro doc
  have hparse : Document.parse ("\x7b\"modules\": \x7b\"CORE\": \x7b\"enabled\": false\x7d, " ++
      "\"core\": \x7b\x7d\x7d\x7d") ⟨"a.json"⟩ = .ok doc :=
    Document.parse_of_toOption (by decide +kernel) ⟨"a.json"⟩
  have hdefinitions : doc.definitions = [definition "UTOOLKIT_BUILD_CORE" "OFF",
      definition "UTOOLKIT_BUILD_CORE" "ON", definition "UTOOLKIT_BUILD_CORE_TESTS" "ON",
      definition "UTOOLKIT_BUILD_CORE_EXAMPLES" "ON"] := by decide +kernel
  refine ⟨hparse, hdefinitions, fun hafresh => ?_⟩
  refine hafresh [_] _ _ hdefinitions (by decide +kernel) _ (List.mem_singleton_self _) ?_
  rw [definedVariable?_definition, definedVariable?_definition]

end Document
end BuildConductor
