import BuildConductor.Proofs.Text.Runs
import BuildConductor.Text.Blank

/-! Words of a text.

A word is a run of characters that are not blank, between blanks or the ends of the text.
`words_eq_cons_iff` says so of the first word that is found, and `words_append_blank` that
blanks behind a text make no difference. Trimming takes away the blanks at both ends
(`exists_trimList`). -/
namespace BuildConductor.Text

def AllBlank (cs : List Char) : Prop :=
  ∀ c ∈ cs, isBlank c = true

structure IsWord (cs : List Char) : Prop where
  ne_nil : cs ≠ []
  not_blank : ∀ c ∈ cs, isBlank c = false

/-- Whether a word ends where a text goes on behind it. -/
def EndsWord (rest : List Char) : Prop :=
  ∀ c ∈ rest.head?, isBlank c = true

instance (cs : List Char) : Decidable (AllBlank cs) :=
  List.decidableBAll (fun c => isBlank c = true) cs

instance (cs : List Char) : Decidable (IsWord cs) :=
  decidable_of_iff (cs ≠ [] ∧ (cs.all fun c => !isBlank c) = true)
    ⟨fun h => ⟨h.1, by simpa using h.2⟩, fun h => ⟨h.ne_nil, by simpa using h.not_blank⟩⟩

instance (rest : List Char) : Decidable (EndsWord rest) :=
  Option.decidableForallMem rest.head?

/-- Whether a text begins with blanks, a word, blanks, and this word. -/
def SecondWord (cs word : List Char) : Prop :=
  ∃ before first between rest, cs = before ++ first ++ (between ++ word ++ rest) ∧
    AllBlank before ∧ IsWord first ∧ between ≠ [] ∧ AllBlank between ∧ IsWord word ∧ EndsWord rest

theorem words_of_dropWhile_eq_nil {cs : List Char} (h : cs.dropWhile isBlank = []) :
    words cs = [] := by
  fun_cases words cs with
  | case1 _ => rfl
  | case2 c rest hdrop =>
    rw [h] at hdrop
    cases hdrop

theorem words_of_dropWhile_eq_cons {cs rest : List Char} {c : Char}
    (h : cs.dropWhile isBlank = c :: rest) :
    words cs = (c :: rest.takeWhile fun d => !isBlank d) ::
      words (rest.dropWhile fun d => !isBlank d) := by
  fun_cases words cs with
  | case1 hdrop =>
    rw [h] at hdrop
    cases hdrop
  | case2 d more hdrop =>
    rw [h] at hdrop
    obtain ⟨rfl, rfl⟩ := List.cons.inj hdrop
    rfl

theorem words_eq_nil_iff {cs : List Char} : words cs = [] ↔ AllBlank cs := by
  cases hdrop : cs.dropWhile isBlank with
  | nil => exact iff_of_true (words_of_dropWhile_eq_nil hdrop) (List.dropWhile_eq_nil_iff.1 hdrop)
  | cons c rest =>
    rw [words_of_dropWhile_eq_cons hdrop]
    refine iff_of_false nofun fun hblank => ?_
    rw [List.dropWhile_eq_nil_iff.2 hblank] at hdrop
    cases hdrop

theorem IsWord.exists_cons {word : List Char} (h : IsWord word) :
    ∃ c letters, word = c :: letters ∧ isBlank c = false ∧
      ∀ d ∈ letters, (!isBlank d) = true := by
  cases word with
  | nil => exact absurd rfl h.ne_nil
  | cons c letters =>
    refine ⟨c, letters, rfl, h.not_blank c List.mem_cons_self, fun d hd => ?_⟩
    rw [h.not_blank d (List.mem_cons_of_mem c hd)]
    rfl

theorem IsWord.not_mem {word : List Char} (h : IsWord word) {c : Char} (hc : isBlank c = true) :
    c ∉ word := by
  intro hmem
  rw [h.not_blank c hmem] at hc
  cases hc

/-! ### Trimming -/

/-- A text is what trimming leaves of it, between the blanks that it begins with and others. -/
theorem exists_trimList (cs : List Char) :
    ∃ after, cs = cs.takeWhile isBlank ++ (trimList cs ++ after) ∧ AllBlank after := by
  refine ⟨((cs.dropWhile isBlank).reverse.takeWhile isBlank).reverse, ?_, fun c hc => ?_⟩
  · rw [trimList, ← List.reverse_append, List.takeWhile_append_dropWhile, List.reverse_reverse,
      List.takeWhile_append_dropWhile]
  · exact List.mem_takeWhile_imp (List.mem_reverse.1 hc)

/-- Nothing is left of blanks alone. -/
theorem trimList_eq_nil_iff {cs : List Char} : trimList cs = [] ↔ AllBlank cs := by
  constructor
  · intro h
    obtain ⟨after, hcs, hafter⟩ := exists_trimList cs
    rw [h, List.nil_append] at hcs
    rw [hcs]
    exact List.forall_mem_append.2 ⟨fun c hc => List.mem_takeWhile_imp hc, hafter⟩
  · intro h
    rw [trimList, List.dropWhile_eq_nil_iff.2 h]
    rfl

/-- What is left begins with no blank. -/
theorem isBlank_of_trimList_eq_cons {cs rest : List Char} {c : Char} (h : trimList cs = c :: rest) :
    isBlank c = false := by
  obtain ⟨after, hcs, -⟩ := exists_trimList cs
  have hdrop : cs.dropWhile isBlank = c :: (rest ++ after) := by
    have hsplit := List.takeWhile_append_dropWhile (p := isBlank) (l := cs)
    rw [h] at hcs
    exact List.append_cancel_left (hsplit.trans hcs)
  exact of_dropWhile_eq_cons hdrop

/-! ### The first words -/

/-- Blanks before a word are passed over, and the word ends at the next blank. -/
theorem words_append {blanks word rest : List Char} (hblanks : AllBlank blanks) (hword : IsWord word)
    (hrest : EndsWord rest) : words (blanks ++ word ++ rest) = word :: words rest := by
  obtain ⟨c, letters, rfl, hc, hletters⟩ := hword.exists_cons
  have hdrop : (blanks ++ c :: letters ++ rest).dropWhile isBlank = c :: (letters ++ rest) := by
    rw [List.append_assoc, List.dropWhile_append_of_pos hblanks, List.cons_append,
      List.dropWhile_cons_of_neg (by simp [hc])]
  have hstop : ∀ d ∈ rest.head?, (!isBlank d) = false := fun d hd => by
    rw [hrest d hd]
    rfl
  obtain ⟨htake, hdropped⟩ := cut_append hletters hstop
  rw [words_of_dropWhile_eq_cons hdrop, htake, hdropped]

theorem words_eq_cons_iff {cs word : List Char} {more : List (List Char)} :
    words cs = word :: more ↔ ∃ blanks rest, cs = blanks ++ word ++ rest ∧ AllBlank blanks ∧
      IsWord word ∧ EndsWord rest ∧ words rest = more := by
  constructor
  · intro h
    cases hdrop : cs.dropWhile isBlank with
    | nil =>
      rw [words_of_dropWhile_eq_nil hdrop] at h
      cases h
    | cons c rest =>
      rw [words_of_dropWhile_eq_cons hdrop] at h
      obtain ⟨rfl, rfl⟩ := List.cons.inj h
      have hword : IsWord (c :: rest.takeWhile fun d => !isBlank d) := by
        refine ⟨nofun, fun d hd => ?_⟩
        rcases List.mem_cons.1 hd with rfl | hd
        · exact of_dropWhile_eq_cons hdrop
        · simpa using List.mem_takeWhile_imp hd
      have hends : EndsWord (rest.dropWhile fun d => !isBlank d) := by
        intro d hd
        obtain ⟨tail, htail⟩ := List.head?_eq_some_iff.1 hd
        simpa using of_dropWhile_eq_cons htail
      refine ⟨cs.takeWhile isBlank, _, ?_, fun d hd => List.mem_takeWhile_imp hd, hword, hends, rfl⟩
      rw [List.append_assoc, List.cons_append, List.takeWhile_append_dropWhile, ← hdrop,
        List.takeWhile_append_dropWhile]
  · rintro ⟨blanks, rest, rfl, hblanks, hword, hrest, rfl⟩
    exact words_append hblanks hword hrest

theorem words_append_blank {c : Char} (hc : isBlank c = true) (cs : List Char) :
    words (cs ++ [c]) = words cs := by
  induction hwords : words cs generalizing cs with
  | nil =>
    refine words_eq_nil_iff.2 fun d hd => ?_
    rcases List.mem_append.1 hd with hd | hd
    · exact words_eq_nil_iff.1 hwords d hd
    · exact List.mem_singleton.1 hd ▸ hc
  | cons word more ih =>
    obtain ⟨blanks, rest, rfl, hblanks, hword, hrest, hmore⟩ := words_eq_cons_iff.1 hwords
    have hends : EndsWord (rest ++ [c]) := by
      intro d hd
      cases rest with
      | nil => exact (Option.some.inj hd) ▸ hc
      | cons e rest => exact hrest d hd
    rw [List.append_assoc, words_append hblanks hword hends, ih rest hmore]

theorem secondWord_iff {cs word : List Char} :
    SecondWord cs word ↔ ∃ first more, words cs = first :: word :: more := by
  constructor
  · rintro ⟨before, first, between, rest, rfl, hbefore, hfirst, hne, hbetween, hword, hrest⟩
    have hends : EndsWord (between ++ word ++ rest) := by
      cases between with
      | nil => exact absurd rfl hne
      | cons c between => exact fun d hd => Option.some.inj hd ▸ hbetween c List.mem_cons_self
    exact ⟨first, words rest, by
      rw [words_append hbefore hfirst hends, words_append hbetween hword hrest]⟩
  · rintro ⟨first, more, hwords⟩
    obtain ⟨before, _, rfl, hbefore, hfirst, hends, hmore⟩ := words_eq_cons_iff.1 hwords
    obtain ⟨between, rest, rfl, hbetween, hword, hrest, -⟩ := words_eq_cons_iff.1 hmore
    refine ⟨before, first, between, rest, rfl, hbefore, hfirst, ?_, hbetween, hword, hrest⟩
    -- Without blanks between them the first word would go on with the second.
    rintro rfl
    obtain ⟨c, letters, rfl, hc, -⟩ := hword.exists_cons
    rw [hends c rfl] at hc
    cases hc

end BuildConductor.Text
