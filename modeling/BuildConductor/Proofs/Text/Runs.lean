import Mathlib.Data.List.TakeWhile

/-! Runs of characters.

A run goes on as long as its characters are of one kind. It ends where a character of another
kind follows, or nothing (`cut_append`): most often at a character that stands for the end of
what is before it (`cut_before`). -/
namespace BuildConductor.Text

/-- A run of characters ends at the first that is not one of them. -/
theorem cut_append {p : Char → Bool} {run rest : List Char} (hrun : ∀ c ∈ run, p c = true)
    (hrest : ∀ c ∈ rest.head?, p c = false) :
    (run ++ rest).takeWhile p = run ∧ (run ++ rest).dropWhile p = rest := by
  have hstop : rest.takeWhile p = [] ∧ rest.dropWhile p = rest := by
    cases rest with
    | nil => exact ⟨rfl, rfl⟩
    | cons c rest =>
      have hc : p c = false := hrest c rfl
      simp [hc]
  rw [List.takeWhile_append_of_pos hrun, List.dropWhile_append_of_pos hrun, hstop.1, hstop.2,
    List.append_nil]
  exact ⟨rfl, rfl⟩

/-- What does not hold a character ends where it comes. -/
theorem cut_before {stop : Char} {run : List Char} (h : stop ∉ run) (rest : List Char) :
    (run ++ stop :: rest).takeWhile (· != stop) = run ∧
      (run ++ stop :: rest).dropWhile (· != stop) = stop :: rest := by
  refine cut_append (fun c hc => bne_iff_ne.2 fun heq => h (heq ▸ hc)) fun c hc => ?_
  cases hc
  exact bne_self_eq_false stop

/-- Nothing behind a character that stops a run belongs to it. -/
theorem takeWhile_append_stop {p : Char → Bool} {c : Char} (hc : p c = false) (cs rest : List Char) :
    (cs ++ c :: rest).takeWhile p = cs.takeWhile p := by
  induction cs with
  | nil => simp [hc]
  | cons d cs ih => rw [List.cons_append, List.takeWhile_cons, List.takeWhile_cons, ih]

/-- What stops a run of characters is not one of them. -/
theorem of_dropWhile_eq_cons {p : Char → Bool} {cs rest : List Char} {c : Char}
    (h : cs.dropWhile p = c :: rest) : p c = false := by
  have hhead := List.head?_dropWhile_not p cs
  rwa [h] at hhead

end BuildConductor.Text
