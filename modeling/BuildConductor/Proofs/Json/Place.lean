import BuildConductor.Json.Fault
import BuildConductor.Proofs.Text.Encoding
import BuildConductor.Proofs.Text.Lines
import Mathlib.Data.Nat.Find

/-! Bytes and their places.

`Place.ofByte` counts the place of a byte in the bytes alone: the newlines before it, and the
bytes since its line began. A span is found from a place by going through the lines of a text.
It names the byte again (`Place.offsetIn_ofByte`), as the first line either has the byte or is
in front of both the byte and its place. The place of a fault is counted character by
character as the text is read, and is that of the byte in front of the fault
(`Place.advance_past`). -/
namespace BuildConductor.Json
open Text (newline newline_not_mem_utf8Bytes utf8Bytes utf8Bytes_append)

/-! ### Places of bytes -/

/-- Whether a line begins at a byte: it is the first one, or behind a newline. -/
def BeginsLine (bytes : List UInt8) (start : Nat) : Prop :=
  start = 0 ∨ bytes[start - 1]? = some newline

instance (bytes : List UInt8) : DecidablePred (BeginsLine bytes) :=
  fun _ => inferInstanceAs (Decidable (_ ∨ _))

/-- Where the line of a byte begins. -/
def lineStart (bytes : List UInt8) (k : Nat) : Nat :=
  Nat.findGreatest (BeginsLine bytes) k

/-- The line and the column of a byte, both counted from one. -/
def Place.ofByte (bytes : List UInt8) (k : Nat) : Place :=
  ⟨1 + (bytes.take k).count newline, 1 + (k - lineStart bytes k)⟩

theorem Place.ofByte_line_ne_zero (bytes : List UInt8) (k : Nat) : (Place.ofByte bytes k).line ≠ 0 := by
  show 1 + _ ≠ 0
  omega

theorem lineStart_of_not_mem {bytes : List UInt8} {k : Nat} (h : newline ∉ bytes.take k) :
    lineStart bytes k = 0 := by
  refine Nat.findGreatest_eq_zero_iff.2 fun n hpos hle hbegins => ?_
  rcases hbegins with hzero | hbyte
  · omega
  · have htake : (bytes.take k)[n - 1]? = some newline := by
      rw [List.getElem?_take_of_lt (by omega), hbyte]
    exact h (List.mem_of_getElem? htake)

/-- Without a newline before it a byte is on the first line. -/
theorem Place.ofByte_of_not_mem {bytes : List UInt8} {k : Nat} (h : newline ∉ bytes.take k) :
    Place.ofByte bytes k = ⟨1, 1 + k⟩ := by
  rw [Place.ofByte, lineStart_of_not_mem h, List.count_eq_zero_of_not_mem h]
  rfl

section Next
variable (first rest : List UInt8) (j : Nat)

theorem beginsLine_next (n : Nat) :
    BeginsLine (first ++ newline :: rest) (first.length + 1 + n) ↔ BeginsLine rest n := by
  cases n with
  | zero =>
    refine iff_of_true (.inr ?_) (.inl rfl)
    simp
  | succ n =>
    have hbyte : (first ++ newline :: rest)[first.length + 1 + n]? = rest[n]? := by
      rw [List.getElem?_append_right (by omega),
        show first.length + 1 + n - first.length = n + 1 by omega, List.getElem?_cons_succ]
    simp [BeginsLine, hbyte]

theorem lineStart_next :
    lineStart (first ++ newline :: rest) (first.length + 1 + j) =
      first.length + 1 + lineStart rest j := by
  have hle : lineStart rest j ≤ j := Nat.findGreatest_le j
  refine Nat.findGreatest_eq_iff.2 ⟨by omega, fun _ => ?_, fun n hlt hn hbegins => ?_⟩
  · exact (beginsLine_next first rest _).2 (Nat.findGreatest_spec (Nat.zero_le j) (.inl rfl))
  · obtain ⟨m, rfl⟩ := Nat.exists_eq_add_of_le (show first.length + 1 ≤ n by omega)
    exact Nat.findGreatest_is_greatest (show lineStart rest j < m by omega) (by omega)
      ((beginsLine_next first rest m).1 hbegins)

theorem count_take_next (h : newline ∉ first) :
    ((first ++ newline :: rest).take (first.length + 1 + j)).count newline =
      (rest.take j).count newline + 1 := by
  have htake : (first ++ newline :: rest).take (first.length + 1 + j) =
      first ++ newline :: rest.take j := by
    rw [Nat.add_assoc, List.take_length_add_append, Nat.add_comm 1 j, List.take_succ_cons]
  rw [htake, List.count_append, List.count_eq_zero_of_not_mem h, List.count_cons_self, Nat.zero_add]

/-- Behind the first line a byte is one line further down than in what comes there. -/
theorem Place.ofByte_next (h : newline ∉ first) :
    Place.ofByte (first ++ newline :: rest) (first.length + 1 + j) =
      ⟨(Place.ofByte rest j).line + 1, (Place.ofByte rest j).column⟩ := by
  rw [Place.ofByte, count_take_next first rest j h, lineStart_next, Nat.add_sub_add_left,
    ← Nat.add_assoc]
  rfl

end Next

/-! ### Places in texts -/

theorem length_utf8Bytes (cs : List Char) : (utf8Bytes cs).length = utf8Length cs := by
  induction cs with
  | nil => rfl
  | cons c rest ih =>
    rw [utf8Bytes, List.flatMap_cons, List.length_append, String.length_utf8EncodeChar, utf8Length,
      ← ih]
    rfl

theorem lt_utf8Length {cs : List Char} {k : Nat} {byte : UInt8}
    (hbyte : (utf8Bytes cs)[k]? = some byte) : k < utf8Length cs := by
  rw [← length_utf8Bytes]
  exact (List.getElem?_eq_some_iff.1 hbyte).1

theorem utf8Length_append (cs rest : List Char) :
    utf8Length (cs ++ rest) = utf8Length cs + utf8Length rest := by
  rw [← length_utf8Bytes, ← length_utf8Bytes, ← length_utf8Bytes, utf8Bytes_append,
    List.length_append]

theorem utf8Bytes_line (line rest : List Char) :
    utf8Bytes (line ++ '\n' :: rest) = utf8Bytes line ++ newline :: utf8Bytes rest := by
  rw [utf8Bytes_append, utf8Bytes, utf8Bytes, List.flatMap_cons]
  rfl

theorem newline_not_mem_take {line : List Char} (h : '\n' ∉ line) (rest : List UInt8) {n : Nat}
    (hn : n ≤ utf8Length line) : newline ∉ (utf8Bytes line ++ rest).take n := by
  rw [List.take_append_of_le_length (by rwa [length_utf8Bytes])]
  exact fun hmem => newline_not_mem_utf8Bytes h (List.mem_of_mem_take hmem)

/-- The newline of a line is one more byte. -/
theorem utf8Length_line (line : List Char) : utf8Length (line ++ ['\n']) = utf8Length line + 1 := by
  rw [utf8Length_append]
  rfl

theorem utf8Length_next (line rest : List Char) :
    utf8Length (line ++ '\n' :: rest) = utf8Length line + 1 + utf8Length rest := by
  rw [List.append_cons, utf8Length_append, utf8Length_line]

namespace Place

theorem offsetIn_last {line : List Char} (h : '\n' ∉ line) (place : Place) :
    place.offsetIn line =
      if place.line = 1 then min (place.column - 1) (utf8Length line) else utf8Length line := by
  by_cases hne : line = []
  · subst hne
    simp [offsetIn, Text.pieces, utf8Length]
  · rw [offsetIn, Text.pieces_last h hne]
    rcases place with ⟨_ | _ | i, column⟩
    · rfl
    · simp [utf8Length]
    · simp

theorem offsetIn_first {line : List Char} (h : '\n' ∉ line) (rest : List Char) (column : Nat) :
    offsetIn ⟨1, column⟩ (line ++ '\n' :: rest) = min (column - 1) (utf8Length line + 1) := by
  rw [offsetIn, Text.pieces_line h]
  simp [utf8Length, utf8Length_line]

/-- Places on later lines lie in what comes behind the first. -/
theorem offsetIn_next {line : List Char} (h : '\n' ∉ line) (rest : List Char) {place : Place}
    (hplace : place.line ≠ 0) :
    offsetIn ⟨place.line + 1, place.column⟩ (line ++ '\n' :: rest) =
      utf8Length line + 1 + place.offsetIn rest := by
  obtain ⟨i, hi⟩ := Nat.exists_eq_succ_of_ne_zero hplace
  rw [offsetIn, offsetIn, Text.pieces_line h, utf8Length_next, hi]
  simp only [Nat.succ_eq_add_one, Nat.add_one_ne_zero, if_false, Nat.add_sub_cancel,
    List.getElem?_cons_succ, List.take_succ_cons, List.flatten_cons, utf8Length_append]
  cases (Text.pieces rest)[i]? with
  | none => rfl
  | some piece => exact Nat.add_assoc ..

/-- The place of a byte leads to that byte, unless it is a newline. -/
theorem offsetIn_ofByte (cs : List Char) {k : Nat} {byte : UInt8}
    (hbyte : (utf8Bytes cs)[k]? = some byte) (hne : byte ≠ newline) :
    (Place.ofByte (utf8Bytes cs) k).offsetIn cs = k := by
  induction cs using Text.lineInduction generalizing k with
  | last line h =>
    have hk : k < utf8Length line := lt_utf8Length hbyte
    have hbefore : newline ∉ (utf8Bytes line).take k := fun hmem =>
      newline_not_mem_utf8Bytes h (List.mem_of_mem_take hmem)
    rw [Place.ofByte_of_not_mem hbefore, offsetIn_last h, if_pos rfl]
    show min (1 + k - 1) (utf8Length line) = k
    omega
  | next line rest h ih =>
    have hline := newline_not_mem_utf8Bytes h
    have hlength := length_utf8Bytes line
    rw [utf8Bytes_line] at hbyte ⊢
    rcases Nat.lt_trichotomy k (utf8Bytes line).length with hlt | heq | hgt
    · have hbefore := newline_not_mem_take h (newline :: utf8Bytes rest) (show k ≤ _ by omega)
      rw [Place.ofByte_of_not_mem hbefore, offsetIn_first h]
      omega
    · -- The byte behind the first line is the newline.
      rw [heq, List.getElem?_append_right (Nat.le_refl _), Nat.sub_self] at hbyte
      exact absurd (Option.some.inj hbyte).symm hne
    · obtain ⟨j, rfl⟩ := Nat.exists_eq_add_of_le (show (utf8Bytes line).length + 1 ≤ k by omega)
      have hrest : (utf8Bytes rest)[j]? = some byte := by
        rw [List.getElem?_append_right (by omega),
          show (utf8Bytes line).length + 1 + j - (utf8Bytes line).length = j + 1 by omega,
          List.getElem?_cons_succ] at hbyte
        exact hbyte
      rw [Place.ofByte_next _ _ _ hline, offsetIn_next h rest (Place.ofByte_line_ne_zero _ _), ih hrest,
        hlength]

/-- On line zero, and behind the last byte's line, a place leads to the end. -/
theorem offsetIn_beyond (cs : List Char) {place : Place}
    (h : place.line = 0 ∨
      ∀ k < (utf8Bytes cs).length, (Place.ofByte (utf8Bytes cs) k).line < place.line) :
    place.offsetIn cs = utf8Length cs := by
  rcases h with hzero | hbeyond
  · rw [offsetIn]
    simp only [hzero, if_true]
  induction cs using Text.lineInduction generalizing place with
  | last line h =>
    rw [offsetIn_last h]
    by_cases hempty : utf8Length line = 0
    · rw [hempty, Nat.min_zero, ite_self]
    · have hfirst : 1 < place.line := by
        have hbyte := hbeyond 0 (by rw [length_utf8Bytes]; omega)
        rwa [Place.ofByte_of_not_mem (by simp)] at hbyte
      rw [if_neg (by omega)]
  | next line rest h ih =>
    obtain ⟨i, column⟩ := place
    rw [utf8Bytes_line] at hbeyond
    have hfirst : 1 < i := by
      have hbyte := hbeyond 0 (by rw [List.length_append, List.length_cons]; omega)
      rwa [Place.ofByte_of_not_mem (by simp)] at hbyte
    obtain ⟨i, rfl⟩ := Nat.exists_eq_add_of_le' (show 1 ≤ i by omega)
    have hi : Place.line ⟨i, column⟩ ≠ 0 := show i ≠ 0 by omega
    rw [utf8Length_next, offsetIn_next h rest hi, ih fun k hk => ?_]
    have hbyte := hbeyond ((utf8Bytes line).length + 1 + k)
      (by rw [List.length_append, List.length_cons]; omega)
    rw [Place.ofByte_next _ _ _ (newline_not_mem_utf8Bytes h)] at hbyte
    exact Nat.lt_of_succ_lt_succ hbyte

/-! ### Spans -/

/-- A span is one byte of its text, or none at the end. -/
theorem spanIn_inside (place : Place) (cs : List Char) :
    (place.spanIn cs).offset + (place.spanIn cs).length ≤ utf8Length cs ∧
      ((place.spanIn cs).length = 1 ↔ (place.spanIn cs).offset < utf8Length cs) := by
  have hle : (place.spanIn cs).offset ≤ utf8Length cs := Nat.min_le_right _ _
  have hlength :
      (place.spanIn cs).length = if (place.spanIn cs).offset < utf8Length cs then 1 else 0 := rfl
  rw [hlength]
  split <;> omega

theorem spanIn_of_offsetIn_lt {place : Place} {cs : List Char} {k : Nat}
    (h : place.offsetIn cs = k) (hk : k < utf8Length cs) : place.spanIn cs = ⟨k, 1⟩ := by
  have hmin : min (place.offsetIn cs) (utf8Length cs) = k := by omega
  rw [spanIn, hmin, if_pos hk]

theorem spanIn_of_offsetIn_end {place : Place} {cs : List Char}
    (h : place.offsetIn cs = utf8Length cs) : place.spanIn cs = ⟨utf8Length cs, 0⟩ := by
  rw [spanIn, h, Nat.min_self, if_neg (Nat.lt_irrefl _)]

/-- The span of a byte's place is that byte, unless it is a newline. The span of any place
lies in the text, and where it is empty it is at the end, as it is on line zero and behind the
line of the last byte. Column zero is taken for column one. -/
theorem spanIn_locates (text : String) :
    (∀ k byte, (Text.bytes text)[k]? = some byte → byte ≠ newline →
      (Place.ofByte (Text.bytes text) k).spanIn text.toList = ⟨k, 1⟩) ∧
    (∀ place : Place, let span := place.spanIn text.toList
      span.offset + span.length ≤ (Text.bytes text).length ∧
        (span.length = 1 ↔ span.offset < (Text.bytes text).length)) ∧
    (∀ line, spanIn ⟨line, 0⟩ text.toList = spanIn ⟨line, 1⟩ text.toList) ∧
    ∀ place : Place,
      (place.line = 0 ∨ ∀ k < (Text.bytes text).length,
        (Place.ofByte (Text.bytes text) k).line < place.line) →
      place.spanIn text.toList = ⟨(Text.bytes text).length, 0⟩ := by
  have hbytes : Text.bytes text = utf8Bytes text.toList := Text.bytes_eq_utf8Bytes text
  rw [hbytes, length_utf8Bytes]
  refine ⟨fun k byte hbyte hne => ?_, fun place => place.spanIn_inside text.toList,
    fun line => rfl, fun place hbeyond => ?_⟩
  · exact spanIn_of_offsetIn_lt (offsetIn_ofByte text.toList hbyte hne) (lt_utf8Length hbyte)
  · rw [← length_utf8Bytes] at hbeyond
    exact spanIn_of_offsetIn_end (offsetIn_beyond text.toList hbeyond)

theorem spanIn_accented :
    ((Text.bytes "é\r\nx")[4]? = some 0x78 ∧ (0x78 : UInt8) ≠ newline ∧
      (Place.ofByte (Text.bytes "é\r\nx") 4).spanIn "é\r\nx".toList = ⟨4, 1⟩) ∧
    Place.ofByte (Text.bytes "é\r\nx") 4 = ⟨2, 1⟩ ∧
    ((∀ k < (Text.bytes "é\r\nx").length, (Place.ofByte (Text.bytes "é\r\nx") k).line < 3) ∧
      spanIn ⟨3, 7⟩ "é\r\nx".toList = ⟨(Text.bytes "é\r\nx").length, 0⟩) := by
  have hbyte : (Text.bytes "é\r\nx")[4]? = some 0x78 := by decide +kernel
  have hbeyond : ∀ k < (Text.bytes "é\r\nx").length,
      (Place.ofByte (Text.bytes "é\r\nx") k).line < 3 := by decide +kernel
  exact ⟨⟨hbyte, by decide, (spanIn_locates "é\r\nx").1 4 0x78 hbyte (by decide)⟩,
    by decide +kernel, hbeyond, (spanIn_locates "é\r\nx").2.2.2 ⟨3, 7⟩ (.inr hbeyond)⟩

/-! ### Places of faults -/

theorem advance_line {line : List Char} (h : '\n' ∉ line) (rest : List Char) (place : Place) {n : Nat}
    (hn : n ≤ utf8Length line) : place.advance (line ++ rest) n = ⟨place.line, place.column + n⟩ := by
  induction line generalizing place n with
  | nil =>
    obtain rfl : n = 0 := Nat.le_zero.1 hn
    cases rest with
    | nil => rfl
    | cons c rest => rw [List.nil_append, advance, if_pos c.utf8Size_pos]
  | cons c line ih =>
    have hc : c ≠ '\n' := fun heq => h (heq ▸ List.mem_cons_self)
    rw [List.cons_append, advance]
    by_cases hlt : n < c.utf8Size
    · rw [if_pos hlt]
    · have hrest : n - c.utf8Size ≤ utf8Length line := by
        rw [utf8Length] at hn
        omega
      rw [if_neg hlt, if_neg hc, ih (fun hmem => h (List.mem_cons_of_mem c hmem)) _ hrest]
      show Place.mk _ (place.column + c.utf8Size + (n - c.utf8Size)) = _
      rw [show place.column + c.utf8Size + (n - c.utf8Size) = place.column + n by omega]

theorem advance_next {line : List Char} (h : '\n' ∉ line) (rest : List Char) (place : Place) (j : Nat) :
    place.advance (line ++ '\n' :: rest) (utf8Length line + 1 + j) =
      advance ⟨place.line + 1, 0⟩ rest j := by
  induction line generalizing place with
  | nil =>
    rw [List.nil_append, advance, if_neg (by show ¬0 + 1 + j < 1; omega), if_pos rfl]
    rw [show utf8Length [] + 1 + j - 1 = j by show 0 + 1 + j - 1 = j; omega]
  | cons c line ih =>
    have hc : c ≠ '\n' := fun heq => h (heq ▸ List.mem_cons_self)
    have hlength : utf8Length (c :: line) + 1 + j - c.utf8Size = utf8Length line + 1 + j := by
      rw [utf8Length]
      omega
    rw [List.cons_append, advance, if_neg (by rw [utf8Length]; omega), if_neg hc, hlength,
      ih fun hmem => h (List.mem_cons_of_mem c hmem)]

/-- Going through a text counts the newlines, and the bytes since the last one. -/
theorem advance_eq (cs : List Char) (i : Nat) {n : Nat} (hn : n ≤ utf8Length cs) :
    advance ⟨i, 0⟩ cs n =
      ⟨i + ((utf8Bytes cs).take n).count newline, n - lineStart (utf8Bytes cs) n⟩ := by
  induction cs using Text.lineInduction generalizing i n with
  | last line h =>
    have hbefore : newline ∉ (utf8Bytes line).take n := fun hmem =>
      newline_not_mem_utf8Bytes h (List.mem_of_mem_take hmem)
    have hline := advance_line h [] ⟨i, 0⟩ hn
    rw [List.append_nil] at hline
    rw [hline, lineStart_of_not_mem hbefore, List.count_eq_zero_of_not_mem hbefore]
    show Place.mk i (0 + n) = ⟨i + 0, n - 0⟩
    rw [Nat.zero_add, Nat.add_zero, Nat.sub_zero]
  | next line rest h ih =>
    rw [utf8Length_next] at hn
    rw [utf8Bytes_line]
    by_cases hle : n ≤ utf8Length line
    · have hbefore := newline_not_mem_take h (newline :: utf8Bytes rest) hle
      rw [advance_line h _ _ hle, lineStart_of_not_mem hbefore, List.count_eq_zero_of_not_mem hbefore]
      show Place.mk i (0 + n) = ⟨i + 0, n - 0⟩
      rw [Nat.zero_add, Nat.add_zero, Nat.sub_zero]
    · obtain ⟨j, rfl⟩ := Nat.exists_eq_add_of_le (show utf8Length line + 1 ≤ n by omega)
      rw [advance_next h, ih (i + 1) (by omega), ← length_utf8Bytes,
        count_take_next _ _ _ (newline_not_mem_utf8Bytes h), lineStart_next, Nat.add_sub_add_left,
        Nat.add_right_comm, Nat.add_assoc]

/-- Past a byte that is not a newline, the place reached is that byte's. -/
theorem advance_past (cs : List Char) {k : Nat} {byte : UInt8}
    (hbyte : (utf8Bytes cs)[k]? = some byte) (hne : byte ≠ newline) :
    advance ⟨1, 0⟩ cs (k + 1) = Place.ofByte (utf8Bytes cs) k := by
  have hcount : ((utf8Bytes cs).take (k + 1)).count newline =
      ((utf8Bytes cs).take k).count newline := by
    rw [List.take_add_one, hbyte, List.count_append]
    exact congrArg _ (List.count_eq_zero_of_not_mem fun hmem => hne (List.mem_singleton.1 hmem).symm)
  have hbegins : ¬BeginsLine (utf8Bytes cs) (k + 1) := by
    rintro (hzero | hnewline)
    · exact Nat.succ_ne_zero k hzero
    · exact hne (Option.some.inj (hbyte.symm.trans hnewline))
  have hstart : lineStart (utf8Bytes cs) (k + 1) = lineStart (utf8Bytes cs) k :=
    Nat.findGreatest_of_not hbegins
  have hle : lineStart (utf8Bytes cs) k ≤ k := Nat.findGreatest_le k
  rw [advance_eq cs 1 (lt_utf8Length hbyte), hcount, hstart, Nat.succ_sub hle, Place.ofByte, Nat.add_comm 1 (k - _)]

end Place

/-- A fault found behind a byte that is not a newline is reported on that byte. -/
theorem Fault.spanIn_place {text : List Char} {fault : Fault} {k : Nat} {byte : UInt8}
    (hoffset : fault.offset text = k + 1) (hbyte : (utf8Bytes text)[k]? = some byte)
    (hne : byte ≠ newline) : (fault.place text).spanIn text = ⟨k, 1⟩ := by
  rw [place, hoffset, Place.advance_past text hbyte hne]
  exact Place.spanIn_of_offsetIn_lt (Place.offsetIn_ofByte text hbyte hne) (lt_utf8Length hbyte)

end BuildConductor.Json
