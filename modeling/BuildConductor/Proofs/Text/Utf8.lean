import BuildConductor.Path

/-! Texts as bytes, and what is shown of them.

The byte of an ASCII character occurs in no other character, so a text is cut at such characters
wherever its bytes are. The bytes of a character are read one after the other, and the last of them
shows it (`shownFrom_encodeChar`); so a text is what is shown of its own bytes. -/
namespace BuildConductor

namespace Text

/-! ### The bytes of a character -/

/-- The byte of an ASCII character occurs in no other one. -/
theorem ascii_not_mem_encodeChar {a c : Char} (ha : a.toNat < 0x80) (hne : c ≠ a) :
    UInt8.ofNat a.toNat ∉ String.utf8EncodeChar c := by
  have hvalue : c.val.toNat ≠ a.toNat := fun heq => hne (Char.ext (UInt32.toNat_inj.1 heq))
  generalize a.toNat = k at ha hvalue
  have hbyte (n : Nat) (hn : n % 256 ≠ k) : UInt8.ofNat k ≠ UInt8.ofNat n := by
    intro heq
    have hnat := congrArg UInt8.toNat heq
    rw [UInt8.toNat_ofNat', UInt8.toNat_ofNat'] at hnat
    omega
  unfold String.utf8EncodeChar
  simp only
  split
  · simp only [List.mem_singleton]
    exact hbyte _ (by omega)
  split
  · simp only [List.mem_cons, List.not_mem_nil, or_false, not_or]
    exact ⟨hbyte _ (by omega), hbyte _ (by omega)⟩
  split
  · simp only [List.mem_cons, List.not_mem_nil, or_false, not_or]
    exact ⟨hbyte _ (by omega), hbyte _ (by omega), hbyte _ (by omega)⟩
  · simp only [List.mem_cons, List.not_mem_nil, or_false, not_or]
    exact ⟨hbyte _ (by omega), hbyte _ (by omega), hbyte _ (by omega), hbyte _ (by omega)⟩

theorem ascii_not_mem_utf8Bytes {a : Char} (ha : a.toNat < 0x80) {cs : List Char} (h : a ∉ cs) :
    UInt8.ofNat a.toNat ∉ utf8Bytes cs := by
  rw [utf8Bytes, List.mem_flatMap]
  rintro ⟨c, hc, hmem⟩
  exact ascii_not_mem_encodeChar ha (fun heq => h (heq ▸ hc)) hmem

/-! ### One byte -/

theorem toNat_ofNat {n : Nat} (h : n < 256) : (UInt8.ofNat n).toNat = n :=
  UInt8.toNat_ofNat_of_lt' h

/-- A byte that a character may go on with, and that is its last, shows the character. -/
theorem nextByte_last {code low high n : Nat} (hbyte : n < 256) (hlow : low ≤ n)
    (hhigh : n ≤ high) :
    nextByte (some ⟨1, code, low, high⟩) (UInt8.ofNat n) =
      ([Char.ofNat (code * 0x40 + (n - 0x80))], none) := by
  simp only [nextByte, toNat_ofNat hbyte, hlow, hhigh, and_self, if_true]

/-- One that is not the last shows nothing yet. -/
theorem nextByte_more {missing code low high n : Nat} (hbyte : n < 256) (hlow : low ≤ n)
    (hhigh : n ≤ high) :
    nextByte (some ⟨missing + 2, code, low, high⟩) (UInt8.ofNat n) =
      ([], some ⟨missing + 1, code * 0x40 + (n - 0x80), 0x80, 0xBF⟩) := by
  simp [nextByte, toNat_ofNat hbyte, hlow, hhigh]

/-! ### One character -/

theorem shownFrom_cons (begun : Option Begun) (b : UInt8) (rest : List UInt8) :
    shownFrom begun (b :: rest) = (nextByte begun b).1 ++ shownFrom (nextByte begun b).2 rest :=
  rfl

/-- The first byte of two. -/
theorem nextByte_none_two {n : Nat} (hlow : 0xC2 ≤ n) (hhigh : n < 0xE0) :
    nextByte none (UInt8.ofNat n) = ([], some ⟨1, n - 0xC0, 0x80, 0xBF⟩) := by
  have hbyte : (UInt8.ofNat n).toNat = n := toNat_ofNat (by omega)
  simp only [nextByte, firstByte, hbyte]
  rw [if_neg (by omega), if_neg (by omega), if_pos hhigh]

/-- The first byte of three. -/
theorem nextByte_none_three {n : Nat} (hlow : 0xE0 ≤ n) (hhigh : n < 0xF0) :
    nextByte none (UInt8.ofNat n) = ([], some ⟨2, n - 0xE0,
      if n = 0xE0 then 0xA0 else 0x80, if n = 0xED then 0x9F else 0xBF⟩) := by
  have hbyte : (UInt8.ofNat n).toNat = n := toNat_ofNat (by omega)
  simp only [nextByte, firstByte, hbyte]
  rw [if_neg (by omega), if_neg (by omega), if_neg (by omega), if_pos hhigh]

/-- The first byte of four. -/
theorem nextByte_none_four {n : Nat} (hlow : 0xF0 ≤ n) (hhigh : n < 0xF5) :
    nextByte none (UInt8.ofNat n) = ([], some ⟨3, n - 0xF0,
      if n = 0xF0 then 0x90 else 0x80, if n = 0xF4 then 0x8F else 0xBF⟩) := by
  have hbyte : (UInt8.ofNat n).toNat = n := toNat_ofNat (by omega)
  simp only [nextByte, firstByte, hbyte]
  rw [if_neg (by omega), if_neg (by omega), if_neg (by omega), if_neg (by omega), if_pos hhigh]

/-- The bytes of a character show it. -/
theorem shownFrom_encodeChar (c : Char) (rest : List UInt8) :
    shownFrom none (String.utf8EncodeChar c ++ rest) = c :: shownFrom none rest := by
  have hvalid : c.val.toNat.isValidChar := c.valid
  have hchar {n : Nat} (hn : n = c.val.toNat) : Char.ofNat n = c := by
    rw [hn]
    exact Char.ofNat_toNat c
  unfold String.utf8EncodeChar
  generalize c.val.toNat = v at hvalid hchar
  simp only
  split
  · rename_i hone
    have hbyte : (UInt8.ofNat v).toNat = v := toNat_ofNat (by omega)
    rw [List.singleton_append, shownFrom_cons]
    simp only [nextByte, firstByte, hbyte]
    rw [if_pos (by omega), hchar rfl]
    rfl
  split
  · rw [List.cons_append, List.singleton_append, shownFrom_cons,
      nextByte_none_two (by omega) (by omega), shownFrom_cons,
      nextByte_last (by omega) (by omega) (by omega), hchar (by omega)]
    rfl
  split
  · rw [List.cons_append, List.cons_append, List.singleton_append, shownFrom_cons,
      nextByte_none_three (by omega) (by omega), shownFrom_cons,
      nextByte_more (by omega) (by split <;> omega) (by split <;> omega), shownFrom_cons,
      nextByte_last (by omega) (by omega) (by omega), hchar (by omega)]
    rfl
  · rw [List.cons_append, List.cons_append, List.cons_append, List.singleton_append,
      shownFrom_cons, nextByte_none_four (by omega) (by unfold Nat.isValidChar at hvalid; omega),
      shownFrom_cons,
      nextByte_more (by omega) (by split <;> omega)
        (by unfold Nat.isValidChar at hvalid; split <;> omega), shownFrom_cons,
      nextByte_more (by omega) (by omega) (by omega), shownFrom_cons,
      nextByte_last (by omega) (by omega) (by omega), hchar (by omega)]
    rfl

/-! ### A text -/

theorem shownBytes_utf8Bytes (cs : List Char) : shownBytes (utf8Bytes cs) = cs := by
  unfold shownBytes utf8Bytes
  induction cs with
  | nil => rfl
  | cons c rest ih => rw [List.flatMap_cons, shownFrom_encodeChar, ih]

end Text

@[simp]
theorem SystemText.text_ofText (text : String) : (ofText text).text = text := by
  rw [SystemText.text, ofText, Text.shownBytes_utf8Bytes, String.ofList_toList]

end BuildConductor
