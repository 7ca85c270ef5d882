import BuildConductor.Command.Basic
import BuildConductor.Proofs.Text.Words

/-! Commands and the texts that show them.

A command is shown as its program with its arguments behind it, each after a blank, and an
argument that is empty or holds a blank is put between quotes. `ofDisplay` undoes this. It is
right where the program ends at the first blank and quotes are only those that were put there
(`ofDisplay_display`), so of such commands no two are shown alike (`display_eq_iff`). -/
namespace BuildConductor.Command

/-- Whether a command can be told from its text: the program ends at the first blank, and no
argument has quotes of its own. -/
structure IsLegible (command : Command) : Prop where
  program : ∀ c ∈ command.program.toList, Text.isBlank c = false
  args : ∀ arg ∈ command.args, '"' ∉ arg.toList

instance (command : Command) : Decidable command.IsLegible :=
  decidable_of_iff
    (command.program.toList.all (fun c => !Text.isBlank c) = true ∧
      command.args.all (fun arg => !arg.toList.contains '"') = true)
    ⟨fun h => ⟨by simpa using h.1, by simpa using h.2⟩,
      fun h => ⟨by simpa using h.program, by simpa using h.args⟩⟩

/-! ### Reading -/

/-- The argument that a text begins with, and the text behind it. -/
def readArg : List Char → String × List Char
  | '"' :: cs => (String.ofList (cs.takeWhile (· != '"')), (cs.dropWhile (· != '"')).tail)
  | cs => (String.ofList (cs.takeWhile (· != ' ')), cs.dropWhile (· != ' '))

theorem length_readArg_le (cs : List Char) : (readArg cs).2.length ≤ cs.length := by
  unfold readArg
  split
  · rename_i cs
    have hquote := List.length_dropWhile_le (· != '"') cs
    rw [List.length_tail, List.length_cons]
    omega
  · exact List.length_dropWhile_le _ _

/-- The arguments of a text that has a blank before each. -/
def readArgs : List Char → List String
  | [] => []
  | _ :: cs => (readArg cs).1 :: readArgs (readArg cs).2
termination_by cs => cs.length
decreasing_by exact Nat.lt_succ_of_le (length_readArg_le cs)

/-- The command that a text shows. -/
def ofDisplay (text : String) : Command where
  program := String.ofList (text.toList.takeWhile fun c => !Text.isBlank c)
  args := readArgs (text.toList.dropWhile fun c => !Text.isBlank c)

/-! ### What is shown is read back -/

/-- Whether a text can stand behind an argument. -/
def EndsArg (rest : List Char) : Prop :=
  ∀ c ∈ rest.head?, c = ' '

theorem endsArg_showArgs (args : List String) : EndsArg (showArgs args) := by
  intro c hc
  cases args with
  | nil => cases hc
  | cons arg args => exact (Option.some.inj hc).symm

/-- Without quotes around it an argument ends at the next blank, since it has none. -/
theorem readArg_bare {arg : List Char} (hne : arg ≠ []) (hblank : ∀ c ∈ arg, Text.isBlank c = false)
    (hquote : '"' ∉ arg) {rest : List Char} (hrest : EndsArg rest) :
    readArg (arg ++ rest) = (String.ofList arg, rest) := by
  have hspace : ∀ c ∈ arg, (c != ' ') = true := by
    rintro c hc
    rw [bne_iff_ne]
    rintro rfl
    exact absurd (hblank _ hc) (by decide)
  have hstop : ∀ c ∈ rest.head?, (c != ' ') = false := fun c hc => by rw [hrest c hc]; rfl
  obtain ⟨htake, hdrop⟩ := Text.cut_append hspace hstop
  cases arg with
  | nil => exact absurd rfl hne
  | cons c arg =>
    have hc : c ≠ '"' := fun h => hquote (h ▸ List.mem_cons_self)
    rw [List.cons_append] at htake hdrop ⊢
    rw [readArg, htake, hdrop]
    exact fun _ heq => hc (List.cons.inj heq).1

/-- With quotes around it an argument ends at the next quote, since it has none. -/
theorem readArg_quoted {arg : List Char} (hquote : '"' ∉ arg) (rest : List Char) :
    readArg ('"' :: (arg ++ '"' :: rest)) = (String.ofList arg, rest) := by
  obtain ⟨htake, hdrop⟩ := Text.cut_before hquote rest
  rw [readArg, htake, hdrop, List.tail_cons]

/-- An argument is read back where other arguments follow, or none. -/
theorem readArg_showArg {arg : String} (hquote : '"' ∉ arg.toList) {rest : List Char}
    (hrest : EndsArg rest) : readArg (showArg arg ++ rest) = (arg, rest) := by
  unfold showArg
  split
  · rw [List.cons_append, List.cons_append, List.append_assoc, List.singleton_append,
      readArg_quoted hquote, String.ofList_toList]
  · rename_i hbare
    simp only [Bool.or_eq_true, not_or, Bool.not_eq_true, List.any_eq_false] at hbare
    obtain ⟨hempty, hblank⟩ := hbare
    have hne : arg.toList ≠ [] := by simpa using hempty
    rw [readArg_bare hne hblank hquote hrest, String.ofList_toList]

theorem readArgs_showArgs {args : List String} (h : ∀ arg ∈ args, '"' ∉ arg.toList) :
    readArgs (showArgs args) = args := by
  induction args with
  | nil => rw [showArgs, List.flatMap_nil, readArgs]
  | cons arg args ih =>
    obtain ⟨harg, hargs⟩ := List.forall_mem_cons.1 h
    have hshown : showArgs (arg :: args) = ' ' :: (showArg arg ++ showArgs args) := rfl
    rw [hshown, readArgs, readArg_showArg harg (endsArg_showArgs args), ih hargs]

/-- A command that can be told from its text is read back from it. -/
theorem ofDisplay_display {command : Command} (h : command.IsLegible) :
    ofDisplay command.display = command := by
  have hrun : ∀ c ∈ command.program.toList, (!Text.isBlank c) = true := fun c hc => by
    rw [h.program c hc]; rfl
  have hstop : ∀ c ∈ (showArgs command.args).head?, (!Text.isBlank c) = false := fun c hc => by
    rw [endsArg_showArgs command.args c hc]; rfl
  obtain ⟨htake, hdrop⟩ := Text.cut_append hrun hstop
  rw [ofDisplay, display, String.toList_ofList, htake, hdrop, readArgs_showArgs h.args,
    String.ofList_toList]

/-- Commands that can be told from their texts have the same text only if they run the same
program with the same arguments. -/
theorem display_eq_iff {command other : Command} (h : command.IsLegible) (hother : other.IsLegible) :
    command.display = other.display ↔ command.program = other.program ∧ command.args = other.args := by
  constructor
  · intro hsame
    have hread : command = other := by
      rw [← ofDisplay_display h, hsame, ofDisplay_display hother]
    exact ⟨congrArg program hread, congrArg args hread⟩
  · rintro ⟨hprogram, hargs⟩
    rw [display, display, hprogram, hargs]

/-- The same characters cut differently: an empty argument and blanks that are not spaces are
told from what is around them. -/
theorem display_eq_iff_blanks :
    let command : Command := ⟨"cmake", ["-G", "Unix Makefiles", "", "\u3000"]⟩
    let other : Command := ⟨"cmake", ["-G", "Unix", "Makefiles", " \u3000"]⟩
    command.IsLegible ∧ other.IsLegible ∧
      (command.display = other.display ↔
        command.program = other.program ∧ command.args = other.args) ∧
      command.display = "cmake -G \"Unix Makefiles\" \"\" \"\u3000\"" ∧
      other.display = "cmake -G Unix Makefiles \" \u3000\"" := by
  intro command other
  have hcommand : command.IsLegible := by decide
  have hother : other.IsLegible := by decide
  exact ⟨hcommand, hother, display_eq_iff hcommand hother, by decide, by decide⟩

-- An argument with quotes of its own can look like another that was given them.
example : display ⟨"echo", [""]⟩ = display ⟨"echo", ["\"\""]⟩ := by decide

end BuildConductor.Command
