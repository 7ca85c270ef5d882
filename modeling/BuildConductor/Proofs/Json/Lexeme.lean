import BuildConductor.Json.Reader
import BuildConductor.Proofs.Decimal.Digits

/-! The smallest parts of a text: blanks, strings and numbers.

`SpellsChars` and `SpellsParts` are the grammars of strings and numbers: a character may
be written in several ways, and a number has digits, a fraction and an exponent. What
spells a string or a number is read as that, up to where it ends. What is written for a
string, or for an integer of 64 bits, is one of its spellings, and so it is read back. -/
namespace BuildConductor.Json

open Decimal (AllDigits ne_of_isDigit ofDigits_toDigits spanDigits)

/-! ### Blanks -/

/-- A text that holds nothing but the blanks between the parts of another. -/
def AllSpaces (cs : List Char) : Prop :=
  ∀ c ∈ cs, isSpace c = true

theorem isSpace_of_isDigit {c : Char} (hc : c.isDigit = true) : isSpace c = false := by
  simp only [isSpace, Bool.or_eq_false_iff, beq_eq_false_iff_ne]
  exact ⟨⟨⟨ne_of_isDigit hc rfl, ne_of_isDigit hc rfl⟩, ne_of_isDigit hc rfl⟩, ne_of_isDigit hc rfl⟩

theorem skipSpaces_append {blanks : List Char} (h : AllSpaces blanks) (cs : List Char) :
    skipSpaces (blanks ++ cs) = skipSpaces cs :=
  List.dropWhile_append_of_pos h

theorem skipSpaces_cons {c : Char} (h : isSpace c = false) (cs : List Char) :
    skipSpaces (c :: cs) = c :: cs := by
  simp [skipSpaces, h]

/-- Blanks before a character that is none are skipped, and nothing else is. -/
theorem skipSpaces_blanks_cons {blanks : List Char} (hblanks : AllSpaces blanks) {c : Char}
    (hc : isSpace c = false) (cs : List Char) : skipSpaces (blanks ++ c :: cs) = c :: cs := by
  rw [skipSpaces_append hblanks, skipSpaces_cons hc]

/-! ### Strings -/

/-- The ways to spell one character within quotes. -/
inductive SpellsChar : List Char → Char → Prop
  | plain {c : Char} (hquote : c ≠ '"') (hbackslash : c ≠ '\\') (hcontrol : ¬c.toNat < 0x20) :
    SpellsChar [c] c
  | short {letter c : Char} (h : shortEscape? letter = some c) : SpellsChar ['\\', letter] c
  | codeUnit {a b c d : Char} {n : Nat} (h : hexQuad? a b c d = some n)
    (hlow : isLowSurrogate n = false) (hhigh : isHighSurrogate n = false) :
    SpellsChar ['\\', 'u', a, b, c, d] (Char.ofNat n)
  | pair {a b c d e f g h : Char} {high low : Nat} (hfirst : hexQuad? a b c d = some high)
    (hhigh : isHighSurrogate high = true) (hsecond : hexQuad? e f g h = some low)
    (hlow : isLowSurrogate low = true) :
    SpellsChar ['\\', 'u', a, b, c, d, '\\', 'u', e, f, g, h] (ofSurrogates high low)

/-- What stands between the quotes of a string, character by character. -/
inductive SpellsChars : List Char → List Char → Prop
  | nil : SpellsChars [] []
  | cons {piece rest text : List Char} {c : Char} (hc : SpellsChar piece c)
    (hrest : SpellsChars rest text) : SpellsChars (piece ++ rest) (c :: text)

/-- What an escape stands for is the next character of the string. -/
theorem readChars_of_readEscape {cs rest : List Char} {c : Char}
    (hescape : readEscape cs = .ok (c, rest)) :
    readChars ('\\' :: cs) = (readChars rest).map fun r => (c :: r.1, r.2) := by
  rw [readChars]
  simp only [Char.reduceEq, if_false, if_true]
  split <;> rename_i heq <;> rw [hescape] at heq <;> cases heq
  cases readChars rest <;> rfl

theorem readEscape_hex {a b c d : Char} (rest : List Char) :
    readEscape ('u' :: a :: b :: c :: d :: rest) = readCodePoint (a :: b :: c :: d :: rest) := by
  have hu : shortEscape? 'u' = none := rfl
  simp only [readEscape, hu, if_true]

theorem not_isLowSurrogate {n : Nat} (h : isHighSurrogate n = true) : isLowSurrogate n = false := by
  simp only [isLowSurrogate, isHighSurrogate, Bool.and_eq_true, Bool.and_eq_false_iff,
    decide_eq_true_eq, decide_eq_false_iff_not] at h ⊢
  omega

/-- A character that is spelled comes first in the string. -/
theorem SpellsChar.read {piece : List Char} {c : Char} (h : SpellsChar piece c)
    (rest : List Char) :
    readChars (piece ++ rest) = (readChars rest).map fun r => (c :: r.1, r.2) := by
  cases h with
  | plain hquote hbackslash hcontrol =>
    rw [List.singleton_append, readChars]
    simp only [hquote, hbackslash, hcontrol, if_false]
    cases readChars rest <;> rfl
  | @short letter _ h =>
    have hescape : readEscape (letter :: rest) = .ok (c, rest) := by
      simp only [readEscape, h]
    exact readChars_of_readEscape hescape
  | @codeUnit a b c d n h hlow hhigh =>
    refine readChars_of_readEscape ((readEscape_hex rest).trans ?_)
    simp only [readCodePoint, readHex, h, hlow, hhigh, Bool.false_eq_true, if_false]
  | @pair a b c d e f g h high low hfirst hhigh hsecond hlow =>
    have hrest := readEscape_hex (a := a) (b := b) (c := c) (d := d)
      ('\\' :: 'u' :: e :: f :: g :: h :: rest)
    refine readChars_of_readEscape (hrest.trans ?_)
    simp only [readCodePoint, readHex, hfirst, not_isLowSurrogate hhigh, hhigh, readLowSurrogate,
      readLowSurrogate.readLowDigits, hsecond, hlow, Bool.false_eq_true, if_false, if_true]

theorem SpellsChars.read {spelled text : List Char} (h : SpellsChars spelled text)
    (rest : List Char) : readString (spelled ++ '"' :: rest) = .ok (String.ofList text, rest) := by
  have hchars : readChars (spelled ++ '"' :: rest) = .ok (text, rest) := by
    induction h with
    | nil =>
      rw [List.nil_append, readChars]
      simp only [if_true]
    | cons hc _ ih =>
      rw [List.append_assoc, hc.read, ih]
      rfl
  rw [readString, hchars]

theorem hexValue?_digitChar {n : Nat} (h : n < 16) : hexValue? n.digitChar = some n := by
  have hall : ∀ n < 16, hexValue? n.digitChar = some n := by decide
  exact hall n h

/-- A character of a string is written in one of three ways: behind a backslash as
its letter, behind a backslash as its number, or as itself. -/
theorem escapeChar_cases (c : Char) :
    (∃ letter, shortEscape? letter = some c ∧ escapeChar c = ['\\', letter]) ∨
      (c.toNat < 0x20 ∧ escapeChar c =
        ['\\', 'u', '0', '0', Nat.digitChar (c.toNat / 16), Nat.digitChar (c.toNat % 16)]) ∨
      (c ≠ '"' ∧ c ≠ '\\' ∧ ¬c.toNat < 0x20 ∧ escapeChar c = [c]) := by
  unfold escapeChar
  split
  iterate 7 exact Or.inl ⟨_, rfl, rfl⟩
  · rename_i hquote hbackslash _ _ _ _ _
    by_cases h : c.toNat < 0x20
    · exact Or.inr (Or.inl ⟨h, if_pos h⟩)
    · exact Or.inr (Or.inr ⟨hquote, hbackslash, h, if_neg h⟩)

/-- A string is spelled as it is written. -/
theorem spellsChars_escaped (cs : List Char) : SpellsChars (cs.flatMap escapeChar) cs := by
  induction cs with
  | nil => exact .nil
  | cons c cs ih =>
    rw [List.flatMap_cons]
    refine .cons ?_ ih
    rcases escapeChar_cases c with ⟨letter, hletter, hc⟩ | ⟨hcontrol, hc⟩ | ⟨hq, hb, hplain, hc⟩
    · rw [hc]
      exact .short hletter
    · have hzero : hexValue? '0' = some 0 := by decide
      have hhigh := hexValue?_digitChar (n := c.toNat / 16) (by omega)
      have hlow := hexValue?_digitChar (n := c.toNat % 16) (by omega)
      have hnumber : ((0 * 16 + 0) * 16 + c.toNat / 16) * 16 + c.toNat % 16 = c.toNat := by omega
      have hquad : hexQuad? '0' '0' (Nat.digitChar (c.toNat / 16)) (Nat.digitChar (c.toNat % 16)) =
          some c.toNat := by
        simp only [hexQuad?, hzero, hhigh, hlow, hnumber]
      have hunit := SpellsChar.codeUnit hquad
        (by simp only [isLowSurrogate, Bool.and_eq_false_iff, decide_eq_false_iff_not]; omega)
        (by simp only [isHighSurrogate, Bool.and_eq_false_iff, decide_eq_false_iff_not]; omega)
      rw [hc]
      rwa [Char.ofNat_toNat] at hunit
    · rw [hc]
      exact .plain hq hb hplain

/-- A string is read back from what stands after its opening quote. -/
theorem readString_written (s : String) (rest : List Char) :
    readString (s.toList.flatMap escapeChar ++ '"' :: rest) = .ok (s, rest) := by
  have hread := (spellsChars_escaped s.toList).read rest
  rwa [String.ofList_toList] at hread

/-! ### Numbers -/

/-- What may follow a number: nothing that could belong to it. -/
def EndsNumber (rest : List Char) : Prop :=
  ∀ c ∈ rest.head?, c.isDigit = false ∧ c ≠ '.' ∧ c ≠ 'e' ∧ c ≠ 'E'

theorem endsNumber_nil : EndsNumber [] := by
  intro c hc
  cases hc

theorem endsNumber_cons {c : Char} (h : c.isDigit = false ∧ c ≠ '.' ∧ c ≠ 'e' ∧ c ≠ 'E')
    (rest : List Char) : EndsNumber (c :: rest) := by
  intro d hd
  cases hd
  exact h

/-- A blank ends a number, and so do blanks before what ends it. -/
theorem endsNumber_append {blanks rest : List Char} (hblanks : AllSpaces blanks)
    (hrest : EndsNumber rest) : EndsNumber (blanks ++ rest) := by
  cases blanks with
  | nil => exact hrest
  | cons c blanks =>
    have hc : isSpace c = true := hblanks c (List.mem_cons_self ..)
    simp only [isSpace, Bool.or_eq_true, beq_iff_eq] at hc
    apply endsNumber_cons
    rcases hc with ((rfl | rfl) | rfl) | rfl <;> decide

/-- The digits before the point: a zero in front stands alone. -/
structure SpellsWhole (whole : List Char) : Prop where
  digits : AllDigits whole
  nonempty : whole ≠ []
  zero : whole.head? = some '0' → whole = ['0']

inductive SpellsFraction : List Char → Option (List Char) → Prop
  | none : SpellsFraction [] none
  | some {digits : List Char} (hdigits : AllDigits digits) (hne : digits ≠ []) :
    SpellsFraction ('.' :: digits) (some digits)

/-- The sign of an exponent, and whether it is a minus. -/
inductive SpellsSign : List Char → Bool → Prop
  | none : SpellsSign [] false
  | plus : SpellsSign ['+'] false
  | minus : SpellsSign ['-'] true

inductive SpellsExponent : List Char → Option (Bool × List Char) → Prop
  | none : SpellsExponent [] none
  | some {letter : Char} {sign digits : List Char} {down : Bool}
    (hletter : letter = 'e' ∨ letter = 'E') (hsign : SpellsSign sign down)
    (hdigits : AllDigits digits) (hne : digits ≠ []) :
    SpellsExponent (letter :: (sign ++ digits)) (some (down, digits))

/-- A number without its sign. -/
inductive SpellsParts : List Char → NumberParts → Prop
  | parts {whole fraction exponent : List Char} {fractionDigits : Option (List Char)}
    {exponentParts : Option (Bool × List Char)} (hwhole : SpellsWhole whole)
    (hfraction : SpellsFraction fraction fractionDigits)
    (hexponent : SpellsExponent exponent exponentParts) :
    SpellsParts (whole ++ (fraction ++ exponent)) ⟨whole, fractionDigits, exponentParts⟩

theorem spanDigits_of_endsNumber {digits rest : List Char} (hdigits : AllDigits digits)
    (hrest : EndsNumber rest) : spanDigits (digits ++ rest) = (digits, rest) :=
  Decimal.spanDigits_append hdigits fun c hc => (hrest c hc).1

theorem SpellsExponent.read {exponent rest : List Char} {parts : Option (Bool × List Char)}
    (h : SpellsExponent exponent parts) (atEnd : Reason) (hrest : EndsNumber rest) :
    readExponent atEnd (exponent ++ rest) = .ok (parts, rest) := by
  cases h with
  | none =>
    cases rest with
    | nil => rfl
    | cons c rest =>
      obtain ⟨-, -, he, hE⟩ := hrest c rfl
      simp only [List.nil_append, readExponent, he, hE, or_self, if_false]
  | @some letter sign digits down hletter hsign hdigits hne =>
    have hspan := spanDigits_of_endsNumber hdigits hrest
    obtain ⟨d, more, rfl⟩ := List.exists_cons_of_ne_nil hne
    have hdrop : Decimal.dropSign (sign ++ (d :: more) ++ rest) = (down, d :: more ++ rest) := by
      cases hsign with
      | none =>
        have hd := hdigits d (List.mem_cons_self ..)
        have hminus : d ≠ '-' := ne_of_isDigit hd rfl
        have hplus : d ≠ '+' := ne_of_isDigit hd rfl
        simp [Decimal.dropSign, hminus, hplus]
      | plus => rfl
      | minus => rfl
    rw [List.cons_append]
    simp only [readExponent, hletter, if_true, hdrop, hspan]

theorem SpellsFraction.read {fraction rest : List Char} {digits : Option (List Char)}
    (h : SpellsFraction fraction digits) (atEnd : Reason)
    (hdigit : ∀ c ∈ rest.head?, c.isDigit = false) (hpoint : ∀ c ∈ rest.head?, c ≠ '.') :
    readFraction atEnd (fraction ++ rest) = .ok (digits, rest) := by
  cases h with
  | none =>
    rw [List.nil_append]
    unfold readFraction
    split
    · exact absurd rfl (hpoint _ rfl)
    · rfl
  | @some digits hdigits hne =>
    have hspan := Decimal.spanDigits_append hdigits hdigit
    obtain ⟨d, more, rfl⟩ := List.exists_cons_of_ne_nil hne
    simp only [List.cons_append] at hspan
    simp only [List.cons_append, readFraction, hspan]

theorem SpellsWhole.read {whole rest : List Char} (h : SpellsWhole whole) (atEnd : Reason)
    (hdigit : ∀ c ∈ rest.head?, c.isDigit = false) :
    readWhole atEnd (whole ++ rest) = .ok (whole, rest) := by
  have hspan := Decimal.spanDigits_append h.digits hdigit
  obtain ⟨c, more, rfl⟩ := List.exists_cons_of_ne_nil h.nonempty
  rw [List.cons_append] at hspan ⊢
  by_cases hzero : c = '0'
  · subst hzero
    cases h.zero rfl
    have hhead : (rest.head?.map Char.isDigit).getD false = false := by
      cases rest with
      | nil => rfl
      | cons d rest => exact hdigit d rfl
    simp only [readWhole, List.nil_append, hhead, Bool.false_eq_true, if_false, if_true]
  · have hc := h.digits c (List.mem_cons_self ..)
    simp only [readWhole, hzero, if_false, hc, if_true, hspan]

/-- The first character of an exponent is neither a digit nor a point, and no more is
what follows a number without one. -/
theorem SpellsExponent.head {exponent rest : List Char} {parts : Option (Bool × List Char)}
    (h : SpellsExponent exponent parts) (hrest : EndsNumber rest) :
    ∀ c ∈ (exponent ++ rest).head?, c.isDigit = false ∧ c ≠ '.' := by
  cases h with
  | none => exact fun c hc => ⟨(hrest c hc).1, (hrest c hc).2.1⟩
  | some hletter =>
    intro c hc
    cases hc
    rcases hletter with rfl | rfl <;> decide

theorem SpellsParts.read {spelled rest : List Char} {parts : NumberParts}
    (h : SpellsParts spelled parts) (atEnd : Reason) (hrest : EndsNumber rest) :
    readParts atEnd (spelled ++ rest) = .ok (parts, rest) := by
  obtain ⟨hwhole, hfraction, hexponent⟩ := h
  rename_i whole fraction exponent fractionDigits exponentParts
  have hhead := hexponent.head hrest
  have hfractionHead : ∀ c ∈ (fraction ++ (exponent ++ rest)).head?, c.isDigit = false := by
    cases hfraction with
    | none => exact fun c hc => (hhead c hc).1
    | some =>
      intro c hc
      cases hc
      rfl
  have hwhole := hwhole.read atEnd hfractionHead
  have hfraction := hfraction.read atEnd (fun c hc => (hhead c hc).1) fun c hc => (hhead c hc).2
  have hexponent := hexponent.read atEnd hrest
  simp only [List.append_assoc, readParts, hwhole, hfraction, hexponent]

/-- A number without its sign begins with a digit. -/
theorem SpellsParts.exists_digit {spelled : List Char} {parts : NumberParts}
    (h : SpellsParts spelled parts) : ∃ c rest, spelled = c :: rest ∧ c.isDigit = true := by
  obtain ⟨hwhole, -, -⟩ := h
  obtain ⟨c, more, rfl⟩ := List.exists_cons_of_ne_nil hwhole.nonempty
  exact ⟨c, _, rfl, hwhole.digits c (List.mem_cons_self ..)⟩

theorem SpellsParts.readNumber {negative : Bool} {text rest : List Char} {parts : NumberParts}
    {n : Number} (h : SpellsParts text parts)
    (hvalue : ∀ unread, numberOfParts negative parts unread = .ok n) (hrest : EndsNumber rest) :
    Json.readNumber negative (text ++ rest) = .ok (n, rest) := by
  simp only [Json.readNumber, h.read .endInValue hrest, hvalue]

/-! ### Integers -/

/-- The digits of a natural number spell it, with no other parts. -/
theorem spellsParts_toDigits (n : Nat) :
    SpellsParts (Nat.toDigits 10 n) ⟨Nat.toDigits 10 n, none, none⟩ := by
  obtain ⟨c, digits, hdigits, -, hzero⟩ := Decimal.toDigits_eq_cons n
  have hwhole : SpellsWhole (Nat.toDigits 10 n) := by
    refine ⟨Decimal.allDigits_toDigits n, Decimal.toDigits_ne_nil n, fun hhead => ?_⟩
    rw [hdigits] at hhead ⊢
    cases hhead
    rw [(hzero rfl).2]
  have h := SpellsParts.parts hwhole .none .none
  rwa [List.append_nil, List.append_nil] at h

theorem numberOfParts_natural {n : Nat} (hn : n < Nat.pow 2 64) (unread : List Char) :
    numberOfParts false ⟨Nat.toDigits 10 n, none, none⟩ unread = .ok (.integer n) := by
  simp only [numberOfParts, ofDigits_toDigits, Option.isNone_none, hn, and_self, if_true]

theorem numberOfParts_negative {n : Nat} (hpos : 0 < n) (hn : n ≤ Nat.pow 2 63)
    (unread : List Char) :
    numberOfParts true ⟨Nat.toDigits 10 n, none, none⟩ unread = .ok (.integer (-n)) := by
  simp only [numberOfParts, ofDigits_toDigits, Option.isNone_none, hpos, hn, and_self, if_true,
    Bool.true_eq_false, false_and, and_false, if_false]

end BuildConductor.Json
