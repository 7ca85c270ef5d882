import BuildConductor.Decimal.Numeral
import BuildConductor.Json.Fault

/-! The smallest parts of a text: blanks, names, strings and numbers.

Each reading function takes the text from where the part starts, or from after
its first character where that has been seen, and gives back what the part says
and the text after it. -/
namespace BuildConductor.Json

open Decimal (digitValue ofDigits spanDigits)

/-- The blanks that may stand between the parts of a text. -/
def isSpace (c : Char) : Bool :=
  c == ' ' || c == '\n' || c == '\t' || c == '\r'

def skipSpaces (cs : List Char) : List Char :=
  cs.dropWhile isSpace

theorem length_skipSpaces_le (cs : List Char) : (skipSpaces cs).length ≤ cs.length :=
  (List.dropWhile_sublist isSpace).length_le

/-- The rest of a name, letter by letter. -/
def readName : (name : List Char) → List Char → Except Fault (List Char)
  | [], cs => .ok cs
  | _ :: _, [] => .error ⟨.endInValue, [], 0⟩
  | letter :: name, c :: rest =>
    if c = letter then readName name rest else .error ⟨.expectedIdentifier, c :: rest, 1⟩

theorem readName_length {name cs rest : List Char} (h : readName name cs = .ok rest) :
    rest.length ≤ cs.length := by
  induction name generalizing cs with
  | nil =>
    simp only [readName, Except.ok.injEq] at h
    exact Nat.le_of_eq (by rw [h])
  | cons letter name ih =>
    cases cs with
    | nil => simp [readName] at h
    | cons c cs =>
      simp only [readName] at h
      split at h
      · exact Nat.le_succ_of_le (ih h)
      · simp at h

/-- Equal results leave equal texts. -/
theorem rest_eq_of_ok_eq {α : Type} {a b : α} {r s : List Char}
    (h : (Except.ok (a, r) : Except Fault (α × List Char)) = .ok (b, s)) : r = s :=
  congrArg Prod.snd (Except.ok.inj h)

/-! ### Strings -/

def hexValue? (c : Char) : Option Nat :=
  if '0' ≤ c ∧ c ≤ '9' then some (c.toNat - '0'.toNat)
  else if 'a' ≤ c ∧ c ≤ 'f' then some (c.toNat - 'a'.toNat + 10)
  else if 'A' ≤ c ∧ c ≤ 'F' then some (c.toNat - 'A'.toNat + 10)
  else none

/-- The value of four hexadecimal digits. -/
def hexQuad? (a b c d : Char) : Option Nat :=
  match hexValue? a, hexValue? b, hexValue? c, hexValue? d with
  | some a, some b, some c, some d => some (((a * 16 + b) * 16 + c) * 16 + d)
  | _, _, _, _ => none

/-- The four bytes after the letter of a hexadecimal escape. -/
def readHex (cs : List Char) : Except Fault (Nat × List Char) :=
  match cs with
  | a :: b :: c :: d :: rest =>
    match hexQuad? a b c d with
    | some n => .ok (n, rest)
    | none => .error ⟨.invalidEscape, cs, 4⟩
  | _ => if 4 ≤ utf8Length cs then .error ⟨.invalidEscape, cs, 4⟩ else .error ⟨.endInString, [], 0⟩

theorem readHex_length {cs rest : List Char} {n : Nat} (h : readHex cs = .ok (n, rest)) :
    rest.length < cs.length := by
  unfold readHex at h
  split at h
  · split at h
    · cases h
      simp only [List.length_cons]
      omega
    · simp at h
  · split at h <;> simp at h

def isHighSurrogate (n : Nat) : Bool :=
  0xD800 ≤ n && n ≤ 0xDBFF

def isLowSurrogate (n : Nat) : Bool :=
  0xDC00 ≤ n && n ≤ 0xDFFF

/-- The character of two surrogates. -/
def ofSurrogates (high low : Nat) : Char :=
  Char.ofNat ((high - 0xD800) * 0x400 + (low - 0xDC00) + 0x10000)

/-- The second half of a pair of hexadecimal escapes, from its backslash. -/
def readLowSurrogate (high : Nat) (cs : List Char) : Except Fault (Char × List Char) :=
  match cs with
  | [] => .error ⟨.endInString, [], 0⟩
  | c :: rest =>
    if c = '\\' then readLowDigits rest else .error ⟨.endInHexEscape, cs, 1⟩
where
  /-- The second half, from its letter. -/
  readLowDigits (cs : List Char) : Except Fault (Char × List Char) :=
    match cs with
    | [] => .error ⟨.endInString, [], 0⟩
    | c :: digits =>
      if c = 'u' then
        match readHex digits with
        | .error fault => .error fault
        | .ok (low, rest) =>
          if isLowSurrogate low then .ok (ofSurrogates high low, rest)
          else .error ⟨.loneSurrogate, rest, 0⟩
      else
        .error ⟨.endInHexEscape, cs, 1⟩

theorem readLowDigits_length {high : Nat} {cs rest : List Char} {c : Char}
    (h : readLowSurrogate.readLowDigits high cs = .ok (c, rest)) : rest.length < cs.length := by
  unfold readLowSurrogate.readLowDigits at h
  split at h
  · cases h
  · split at h
    · split at h
      · cases h
      · rename_i hread
        split at h
        · rw [← rest_eq_of_ok_eq h]
          exact Nat.lt_succ_of_lt (readHex_length hread)
        · cases h
    · cases h

theorem readLowSurrogate_length {high : Nat} {cs rest : List Char} {c : Char}
    (h : readLowSurrogate high cs = .ok (c, rest)) : rest.length < cs.length := by
  unfold readLowSurrogate at h
  split at h
  · cases h
  · split at h
    · exact Nat.lt_succ_of_lt (readLowDigits_length h)
    · cases h

/-- A hexadecimal escape after its letter: one code unit, or a pair of them. -/
def readCodePoint (cs : List Char) : Except Fault (Char × List Char) :=
  match readHex cs with
  | .error fault => .error fault
  | .ok (n, rest) =>
    if isLowSurrogate n then .error ⟨.loneSurrogate, rest, 0⟩
    else if isHighSurrogate n then readLowSurrogate n rest
    else .ok (Char.ofNat n, rest)

theorem readCodePoint_length {cs rest : List Char} {c : Char}
    (h : readCodePoint cs = .ok (c, rest)) : rest.length < cs.length := by
  unfold readCodePoint at h
  split at h
  · simp at h
  · rename_i hread
    have hlen := readHex_length hread
    split at h
    · simp at h
    · split at h
      · exact Nat.lt_trans (readLowSurrogate_length h) hlen
      · rw [← rest_eq_of_ok_eq h]
        exact hlen

/-- What a letter after a backslash stands for, the hexadecimal escape aside. -/
def shortEscape? (c : Char) : Option Char :=
  match c with
  | '"' => some '"'
  | '\\' => some '\\'
  | '/' => some '/'
  | 'b' => some '\x08'
  | 'f' => some '\x0c'
  | 'n' => some '\n'
  | 'r' => some '\r'
  | 't' => some '\t'
  | _ => none

/-- An escape after its backslash. -/
def readEscape (cs : List Char) : Except Fault (Char × List Char) :=
  match cs with
  | [] => .error ⟨.endInString, [], 0⟩
  | c :: rest =>
    match shortEscape? c with
    | some d => .ok (d, rest)
    | none => if c = 'u' then readCodePoint rest else .error ⟨.invalidEscape, cs, 1⟩

theorem readEscape_length {cs rest : List Char} {c : Char} (h : readEscape cs = .ok (c, rest)) :
    rest.length < cs.length := by
  unfold readEscape at h
  split at h
  · simp at h
  · split at h
    · cases h
      exact Nat.lt_succ_self _
    · split at h
      · exact Nat.lt_succ_of_lt (readCodePoint_length h)
      · simp at h

/-- The characters of a string after its opening quote. -/
def readChars (cs : List Char) : Except Fault (List Char × List Char) :=
  match cs with
  | [] => .error ⟨.endInString, [], 0⟩
  | c :: rest =>
    if c = '"' then .ok ([], rest)
    else if c = '\\' then
      match _h : readEscape rest with
      | .error fault => .error fault
      | .ok (d, rest) =>
        match readChars rest with
        | .error fault => .error fault
        | .ok (text, rest) => .ok (d :: text, rest)
    else if c.toNat < 0x20 then .error ⟨.controlCharacter, cs, 1⟩
    else
      match readChars rest with
      | .error fault => .error fault
      | .ok (text, rest) => .ok (c :: text, rest)
termination_by cs.length
decreasing_by
  · have := readEscape_length _h
    simp only [List.length_cons]
    omega
  · simp

theorem readChars_length {cs text rest : List Char} (h : readChars cs = .ok (text, rest)) :
    rest.length < cs.length := by
  fun_induction readChars cs generalizing text with
  | case1 => simp at h
  | case2 => cases h; simp
  | case3 => simp at h
  | case4 => simp at h
  | case5 =>
    rename_i hescape _ _ hread _ ih
    cases h
    have := readEscape_length hescape
    have := ih hread
    simp only [List.length_cons]
    omega
  | case6 => simp at h
  | case7 => simp at h
  | case8 _ _ _ _ _ _ _ hread ih =>
    cases h
    have := ih hread
    simp only [List.length_cons]
    omega

/-- A string after its opening quote. -/
def readString (cs : List Char) : Except Fault (String × List Char) :=
  match readChars cs with
  | .error fault => .error fault
  | .ok (text, rest) => .ok (String.ofList text, rest)

theorem readString_length {cs rest : List Char} {s : String}
    (h : readString cs = .ok (s, rest)) : rest.length < cs.length := by
  unfold readString at h
  split at h
  · simp at h
  · rename_i hread
    cases h
    exact readChars_length hread

/-! ### Numbers -/

/-- The digits of a number: before the point, after it, and in its exponent. -/
structure NumberParts where
  whole : List Char
  fraction : Option (List Char)
  exponent : Option (Bool × List Char)

/-- The digits before the point. A zero stands alone. -/
def readWhole (atEnd : Reason) (cs : List Char) : Except Fault (List Char × List Char) :=
  match cs with
  | [] => .error ⟨atEnd, [], 0⟩
  | c :: rest =>
    if c = '0' then
      if (rest.head?.map Char.isDigit).getD false then .error ⟨.invalidNumber, rest, 1⟩
      else .ok (['0'], rest)
    else if c.isDigit then .ok (spanDigits cs)
    else .error ⟨.invalidNumber, cs, 1⟩

/-- The digits after the point, if there is one. -/
def readFraction (atEnd : Reason) (cs : List Char) :
    Except Fault (Option (List Char) × List Char) :=
  match cs with
  | '.' :: rest =>
    match spanDigits rest with
    | ([], []) => .error ⟨atEnd, [], 0⟩
    | ([], rest) => .error ⟨.invalidNumber, rest, 1⟩
    | (digits, rest) => .ok (some digits, rest)
  | _ => .ok (none, cs)

/-- The exponent with whether it is negative, if there is one. -/
def readExponent (atEnd : Reason) (cs : List Char) :
    Except Fault (Option (Bool × List Char) × List Char) :=
  match cs with
  | [] => .ok (none, [])
  | c :: rest =>
    if c = 'e' ∨ c = 'E' then
      match spanDigits (Decimal.dropSign rest).2 with
      | ([], []) => .error ⟨atEnd, [], 0⟩
      | ([], rest) => .error ⟨.invalidNumber, rest, 1⟩
      | (digits, after) => .ok (some ((Decimal.dropSign rest).1, digits), after)
    else
      .ok (none, cs)

/-- A number after its sign. `atEnd` is the reason given where the text ends
within it. -/
def readParts (atEnd : Reason) (cs : List Char) : Except Fault (NumberParts × List Char) :=
  match readWhole atEnd cs with
  | .error fault => .error fault
  | .ok (whole, rest) =>
    match readFraction atEnd rest with
    | .error fault => .error fault
    | .ok (fraction, rest) =>
      match readExponent atEnd rest with
      | .error fault => .error fault
      | .ok (exponent, rest) => .ok (⟨whole, fraction, exponent⟩, rest)

theorem spanDigits_length (cs : List Char) : (spanDigits cs).2.length ≤ cs.length :=
  (List.dropWhile_sublist Char.isDigit).length_le

theorem readWhole_length {atEnd : Reason} {cs digits rest : List Char}
    (h : readWhole atEnd cs = .ok (digits, rest)) : rest.length < cs.length := by
  unfold readWhole at h
  split at h
  · simp at h
  · rename_i c tail
    split at h
    · split at h
      · simp at h
      · cases h
        exact Nat.lt_succ_self _
    · split at h
      · rename_i hd
        have hrest : (spanDigits (c :: tail)).2 = rest := congrArg Prod.snd (Except.ok.inj h)
        rw [← hrest]
        simp only [spanDigits, List.dropWhile_cons, hd, if_true]
        exact Nat.lt_succ_of_le (List.dropWhile_sublist Char.isDigit).length_le
      · cases h

theorem readFraction_length {atEnd : Reason} {cs rest : List Char} {digits : Option (List Char)}
    (h : readFraction atEnd cs = .ok (digits, rest)) : rest.length ≤ cs.length := by
  unfold readFraction at h
  split at h
  · rename_i tail
    have hspan := spanDigits_length tail
    split at h
    · simp at h
    · simp at h
    · rename_i hs
      cases h
      rw [hs] at hspan
      exact Nat.le_succ_of_le hspan
  · cases h
    exact Nat.le_refl _

theorem dropSign_length (cs : List Char) : (Decimal.dropSign cs).2.length ≤ cs.length := by
  unfold Decimal.dropSign
  split <;> simp

theorem readExponent_length {atEnd : Reason} {cs rest : List Char}
    {digits : Option (Bool × List Char)} (h : readExponent atEnd cs = .ok (digits, rest)) :
    rest.length ≤ cs.length := by
  unfold readExponent at h
  split at h
  · cases h
    exact Nat.le_refl _
  · rename_i tail
    split at h
    · have hsign := dropSign_length tail
      have hspan := spanDigits_length (Decimal.dropSign tail).2
      split at h
      · simp at h
      · simp at h
      · rename_i hs
        cases h
        rw [hs] at hspan
        exact Nat.le_succ_of_le (Nat.le_trans hspan hsign)
    · cases h
      exact Nat.le_refl _

theorem readParts_length {atEnd : Reason} {cs rest : List Char} {parts : NumberParts}
    (h : readParts atEnd cs = .ok (parts, rest)) : rest.length < cs.length := by
  unfold readParts at h
  split at h
  · simp at h
  · rename_i hwhole
    split at h
    · simp at h
    · rename_i hfraction
      split at h
      · simp at h
      · rename_i hexponent
        cases h
        have h₁ := readWhole_length hwhole
        have h₂ := readFraction_length hfraction
        have h₃ := readExponent_length hexponent
        omega

/-- Digits taken into a significand as long as it stays below `2 ^ 64`, and how
many were left out. -/
def absorb (significand : Nat) : List Char → Nat × Nat
  | [] => (significand, 0)
  | c :: rest =>
    let next := 10 * significand + digitValue c
    if Nat.pow 2 64 ≤ next then (significand, rest.length + 1) else absorb next rest

/-- The digits after the one that takes an exponent beyond 31 bits. -/
def exponentOverflow? (exponent : Nat) : List Char → Option (List Char)
  | [] => none
  | c :: rest =>
    let next := 10 * exponent + digitValue c
    if Nat.pow 2 31 ≤ next then some rest else exponentOverflow? next rest

def signed (negative : Bool) (x : Decimal.Binary64) : Number :=
  .real {x with negative := negative}

/-- A number that is not an integer of 64 bits. Only the digits that fit the
significand count; those left out before the point still count as places. -/
def realOfParts (negative : Bool) (parts : NumberParts) (unread : List Char) :
    Except Fault Number :=
  let (whole, outside) := absorb 0 parts.whole
  let fraction := parts.fraction.getD []
  let (significand, dropped) := absorb whole fraction
  let scaled (places : Int) : Except Fault Number :=
    match (Decimal.Binary64.ofNat? significand).bind fun x => x.scale? places with
    | some x => .ok (signed negative x)
    | none => .error ⟨.numberOutOfRange, unread, 0⟩
  let places : Int := outside - (fraction.length - dropped : Nat)
  match parts.exponent with
  | none => scaled places
  | some (down, digits) =>
    match exponentOverflow? 0 digits with
    | some after =>
      if significand ≠ 0 ∧ down = false then .error ⟨.numberOutOfRange, after ++ unread, 0⟩
      else .ok (signed negative .zero)
    | none =>
      let exponent := ofDigits digits
      scaled (if down then places - exponent else places + exponent)

/-- The number that parts and a sign write. Integers of 64 bits stay integers; a
negative zero does not. -/
def numberOfParts (negative : Bool) (parts : NumberParts) (unread : List Char) :
    Except Fault Number :=
  let n := ofDigits parts.whole
  if parts.fraction.isNone ∧ parts.exponent.isNone ∧ negative = false ∧ n < Nat.pow 2 64 then
    .ok (.integer n)
  else if parts.fraction.isNone ∧ parts.exponent.isNone ∧ negative = true ∧ 0 < n ∧
      n ≤ Nat.pow 2 63 then
    .ok (.integer (-n))
  else
    realOfParts negative parts unread

/-- A number after its sign. -/
def readNumber (negative : Bool) (cs : List Char) : Except Fault (Number × List Char) :=
  match readParts .endInValue cs with
  | .error fault => .error fault
  | .ok (parts, rest) =>
    match numberOfParts negative parts rest with
    | .error fault => .error fault
    | .ok n => .ok (n, rest)

theorem readNumber_length {negative : Bool} {cs rest : List Char} {n : Number}
    (h : readNumber negative cs = .ok (n, rest)) : rest.length < cs.length := by
  unfold readNumber at h
  split at h
  · simp at h
  · rename_i hparts
    split at h
    · simp at h
    · cases h
      exact readParts_length hparts

end BuildConductor.Json
