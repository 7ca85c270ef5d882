import BuildConductor.Proofs.Plan.Agreement
import BuildConductor.Proofs.Text.Case

/-! The spelling of the option for tests.

Whether a text is taken as true depends on its word alone: on what is left of it without the
blanks at its ends, in any letter case (`isTrueText_eq_of_sameWord`). So documents that set
the option for tests to one word have plans that agree on whether tests are run, however each
of them spells it (`tests_ignore_spelling`). -/
namespace BuildConductor

/-- Whether two texts are equal up to the blanks at their ends and the case of ASCII letters. -/
def SameWord (s t : String) : Prop :=
  Text.sameUpToAsciiCase (Text.trim s) (Text.trim t) = true

instance (s t : String) : Decidable (SameWord s t) :=
  inferInstanceAs (Decidable (_ = true))

/-- Blanks and letter case are gone from the word that is looked at, before it is read as a
numeral, searched for the ending of what was not found or compared with the words for false. -/
theorem SameWord.upperList_eq {s t : String} (h : SameWord s t) :
    Text.upperList (Text.trimList s.toList) = Text.upperList (Text.trimList t.toList) := by
  rw [SameWord, Text.sameUpToAsciiCase, beq_iff_eq, Text.trim, Text.trim, String.toList_ofList,
    String.toList_ofList] at h
  exact Text.upperList_eq_of_toLower_eq h

theorem isTrueText_eq_of_sameWord {s t : String} (h : SameWord s t) :
    isTrueText s = isTrueText t := by
  simp only [isTrueText, h.upperList_eq]

namespace Document
variable {doc other : Document}

/-- Documents that set the option for tests alike agree on whether tests are run. -/
theorem testsEnabled_eq_of_isTrue {value otherValue : OptionValue}
    (hvalue : value.isTrue = otherValue.isTrue)
    (hdoc : doc.options.find? testsOption = some value)
    (hother : other.options.find? testsOption = some otherValue) :
    doc.testsEnabled = other.testsEnabled := by
  simp only [testsEnabled, hdoc, hother, hvalue]

/-- One word in two spellings is as true as the other. Two documents that set the option for
tests to it, whatever else they say, both run tests or both do not; so do their plans have a
step for tests, in any settings. -/
theorem tests_ignore_spelling {s t : String} (h : SameWord s t) :
    (OptionValue.string s).isTrue = (OptionValue.string t).isTrue ∧
      ∀ doc other : Document, doc.options.find? testsOption = some (.string s) →
        other.options.find? testsOption = some (.string t) →
        doc.testsEnabled = other.testsEnabled ∧
          ∀ settings otherSettings, ((doc.plan settings).step? .test).isSome =
            ((other.plan otherSettings).step? .test).isSome := by
  have hvalue : (OptionValue.string s).isTrue = (OptionValue.string t).isTrue :=
    isTrueText_eq_of_sameWord h
  refine ⟨hvalue, fun doc other hdoc hother => ?_⟩
  have htests := testsEnabled_eq_of_isTrue hvalue hdoc hother
  refine ⟨htests, fun settings otherSettings => ?_⟩
  rw [plan_test, plan_test, htests]

/-- A word that is longer in capital letters, and ends like what was not found. -/
theorem tests_ignore_spelling_accented :
    let doc := testsDocument (.string "\tß-notFound")
    let other := testsDocument (.string "ß-NotFOUND\u3000")
    SameWord "\tß-notFound" "ß-NotFOUND\u3000" ∧
      doc.options.find? testsOption = some (.string "\tß-notFound") ∧
      other.options.find? testsOption = some (.string "ß-NotFOUND\u3000") ∧
      doc.testsEnabled = false ∧ other.testsEnabled = false ∧
      ((doc.plan appSettings).step? .test).isSome =
        ((other.plan appSettings).step? .test).isSome := by
  intro doc other
  have hword : SameWord "\tß-notFound" "ß-NotFOUND\u3000" := by decide +kernel
  have hdoc : doc.options.find? testsOption = some (.string "\tß-notFound") := by decide +kernel
  have hother : other.options.find? testsOption = some (.string "ß-NotFOUND\u3000") := by
    decide +kernel
  have hoff : doc.testsEnabled = false := by decide +kernel
  obtain ⟨htests, hplans⟩ := (tests_ignore_spelling hword).2 doc other hdoc hother
  exact ⟨hword, hdoc, hother, hoff, htests ▸ hoff, hplans appSettings appSettings⟩

end Document

end BuildConductor
