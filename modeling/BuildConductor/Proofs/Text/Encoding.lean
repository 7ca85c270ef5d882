import BuildConductor.Prompt
import BuildConductor.Proofs.Text.Utf8

/-! Texts as bytes.

What is typed reaches a terminal as bytes. A newline is one byte that occurs in no other
character, so lines of bytes are lines of text; and it is blank, so that a line is trimmed
like the answer before its newline. -/
namespace BuildConductor.Text

/-- The newline as a byte. -/
def newline : UInt8 := 0x0A

/-- The bytes of a text. -/
def bytes (text : String) : List UInt8 :=
  text.toUTF8.data.toList

theorem bytes_eq_utf8Bytes (text : String) : bytes text = utf8Bytes text.toList := by
  rw [bytes, String.toUTF8, ← String.utf8Encode_toList, List.utf8Encode, List.toList_data_toByteArray]
  rfl

theorem bytes_append (first second : String) : bytes (first ++ second) = bytes first ++ bytes second := by
  rw [bytes_eq_utf8Bytes, bytes_eq_utf8Bytes, bytes_eq_utf8Bytes, String.toList_append,
    utf8Bytes_append]

@[simp]
theorem bytes_newline : bytes "\n" = [newline] := by
  decide +kernel

/-- Bytes of a text are read as that text. -/
theorem fromUTF8?_toUTF8 (text : String) : String.fromUTF8? text.toUTF8 = some text := by
  rw [String.toUTF8, String.fromUTF8?, dif_pos text.isValidUTF8]
  rfl

theorem fromUTF8?_bytes (text : String) : String.fromUTF8? ⟨(bytes text).toArray⟩ = some text := by
  rw [bytes, Array.toArray_toList]
  exact fromUTF8?_toUTF8 text

theorem newline_not_mem_utf8Bytes {cs : List Char} (h : '\n' ∉ cs) : newline ∉ utf8Bytes cs :=
  ascii_not_mem_utf8Bytes (by decide) h

theorem newline_not_mem_bytes {text : String} (h : '\n' ∉ text.toList) : newline ∉ bytes text := by
  rw [bytes_eq_utf8Bytes]
  exact newline_not_mem_utf8Bytes h

/-- A newline at the end is trimmed off. -/
theorem trim_append_newline (text : String) : trim (text ++ "\n") = trim text := by
  have hlist (cs : List Char) : trimList (cs ++ ['\n']) = trimList cs := by
    have hblank : isBlank '\n' = true := rfl
    unfold trimList
    rw [List.dropWhile_append]
    split
    · rename_i hempty
      rw [List.isEmpty_iff.1 hempty, List.dropWhile_cons_of_pos hblank, List.dropWhile_nil]
    · rw [List.reverse_append, List.reverse_singleton, List.singleton_append,
        List.dropWhile_cons_of_pos hblank]
  rw [trim, String.toList_append]
  exact congrArg String.ofList (hlist text.toList)

end BuildConductor.Text
