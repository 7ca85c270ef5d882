import Mathlib
import BuildConductor.Text.Case

/-! Small and capital letters.

A text keeps its capital form when its ASCII letters are made small. So texts that differ in
the case of such letters alone have one capital form (`upperList_eq_of_toLower_eq`), whatever
becomes of their other characters. -/
namespace BuildConductor.Text

/-- A small letter is the small form of itself and of its capital form alone. -/
theorem toLower_eq_iff {c d : Char} (hd : d.isLower = true) :
    c.toLower = d ↔ c = d ∨ c = d.toUpper := by
  have hsame : d.toLower = d := Char.toLower_eq_of_not_isUpper (Char.not_isUpper_of_isLower hd)
  constructor
  · rintro rfl
    by_cases hc : c.isUpper = true
    · rw [Char.toUpper_toLower_eq_toUpper,
        Char.toUpper_eq_of_not_isLower (Char.not_isLower_of_isUpper hc)]
      exact .inr rfl
    · exact .inl (Char.toLower_eq_of_not_isUpper hc).symm
  · rintro (rfl | rfl)
    · exact hsame
    · rw [Char.toLower_toUpper_eq_toLower, hsame]

/-- The capital form of an ASCII letter does not depend on its case; no other character has
another small form. -/
theorem upperChar_toLower (c : Char) : upperChar c.toLower = upperChar c := by
  have hall : ∀ n ≤ 90, 65 ≤ n →
      upperChar (Char.ofNat n).toLower = upperChar (Char.ofNat n) := by decide
  by_cases hc : c.isUpper = true
  · obtain ⟨hlow, hhigh⟩ : 65 ≤ c.toNat ∧ c.toNat ≤ 90 := by
      simpa [Char.isUpper, UInt32.le_iff_toNat_le] using hc
    simpa using hall c.toNat hhigh hlow
  · rw [Char.toLower_eq_of_not_isUpper hc]

theorem upperList_map_toLower (cs : List Char) : upperList (cs.map Char.toLower) = upperList cs := by
  induction cs with
  | nil => rfl
  | cons c cs ih => rw [List.map_cons, upperList_cons, upperList_cons, upperChar_toLower, ih]

/-- Texts that are equal up to the case of ASCII letters have one capital form. -/
theorem upperList_eq_of_toLower_eq {cs ds : List Char}
    (h : cs.map Char.toLower = ds.map Char.toLower) : upperList cs = upperList ds := by
  rw [← upperList_map_toLower cs, h, upperList_map_toLower ds]

end BuildConductor.Text
