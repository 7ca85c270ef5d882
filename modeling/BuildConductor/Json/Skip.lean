import BuildConductor.Json.Reader

/-! Values that are passed over.

A value that nobody wants is only checked for its shape: escapes need their
digits but surrogates need no partner, numbers may be of any size, and brackets
may be nested without limit. The brackets still open are kept in a list. -/
namespace BuildConductor.Json

inductive Bracket where
  | list
  | map
deriving DecidableEq

def Bracket.closing : Bracket → Char
  | .list => ']'
  | .map => '\x7d'

/-- The reason given where the text ends within a bracket. -/
def Bracket.atEnd : Bracket → Reason
  | .list => .endInList
  | .map => .endInObject

/-- The reason given where neither a comma nor the closing bracket follows. -/
def Bracket.notClosed : Bracket → Reason
  | .list => .expectedCommaOrBracket
  | .map => .expectedCommaOrBrace

/-- An escape after its backslash. -/
def skipEscape (cs : List Char) : Except Fault (List Char) :=
  match cs with
  | [] => .error ⟨.endInString, [], 0⟩
  | c :: rest =>
    match shortEscape? c with
    | some _ => .ok rest
    | none => if c = 'u' then (readHex rest).map Prod.snd else .error ⟨.invalidEscape, cs, 1⟩

theorem skipEscape_length {cs rest : List Char} (h : skipEscape cs = .ok rest) :
    rest.length < cs.length := by
  unfold skipEscape at h
  split at h
  · cases h
  · rename_i c tail
    split at h
    · cases h
      exact Nat.lt_succ_self _
    · split at h
      · cases hhex : readHex tail with
        | error fault => rw [hhex] at h; cases h
        | ok r =>
          rw [hhex] at h
          cases h
          exact Nat.lt_succ_of_lt (readHex_length (n := r.1) hhex)
      · cases h

/-- A string after its opening quote. -/
def skipString (cs : List Char) : Except Fault (List Char) :=
  match cs with
  | [] => .error ⟨.endInString, [], 0⟩
  | c :: rest =>
    if c = '"' then .ok rest
    else if c = '\\' then
      match _h : skipEscape rest with
      | .error fault => .error fault
      | .ok rest => skipString rest
    else if c.toNat < 0x20 then .error ⟨.controlCharacter, cs, 0⟩
    else skipString rest
termination_by cs.length
decreasing_by
  · have := skipEscape_length _h
    simp only [List.length_cons]
    omega
  · simp

theorem skipString_length {cs rest : List Char} (h : skipString cs = .ok rest) :
    rest.length < cs.length := by
  fun_induction skipString cs with
  | case1 => cases h
  | case2 => cases h; exact Nat.lt_succ_self _
  | case3 => cases h
  | case4 =>
    rename_i hescape _ ih
    have := skipEscape_length hescape
    have := ih h
    simp only [List.length_cons]
    omega
  | case5 => cases h
  | case6 _ _ _ _ _ ih => exact Nat.lt_succ_of_lt (ih h)

/-- A number after its sign. -/
def skipNumber (cs : List Char) : Except Fault (List Char) :=
  (readParts .invalidNumber cs).map Prod.snd

theorem skipNumber_length {cs rest : List Char} (h : skipNumber cs = .ok rest) :
    rest.length < cs.length := by
  unfold skipNumber at h
  cases hparts : readParts .invalidNumber cs with
  | error fault => rw [hparts] at h; cases h
  | ok r =>
    obtain ⟨parts, rest⟩ := r
    rw [hparts] at h
    cases h
    exact readParts_length hparts

/-- A scalar, or the opening bracket of a list or an object. -/
def skipFirst (cs : List Char) : Except Fault (Option Bracket × List Char) :=
  match skipSpaces cs with
  | [] => .error ⟨.endInValue, [], 0⟩
  | c :: rest =>
    if c = 'n' then (readName "ull".toList rest).map fun rest => (none, rest)
    else if c = 't' then (readName "rue".toList rest).map fun rest => (none, rest)
    else if c = 'f' then (readName "alse".toList rest).map fun rest => (none, rest)
    else if c = '-' then (skipNumber rest).map fun rest => (none, rest)
    else if c.isDigit then (skipNumber (c :: rest)).map fun rest => (none, rest)
    else if c = '"' then (skipString rest).map fun rest => (none, rest)
    else if c = '[' then .ok (some .list, rest)
    else if c = '\x7b' then .ok (some .map, rest)
    else .error ⟨.expectedValue, c :: rest, 1⟩

theorem skipFirst_length {cs rest : List Char} {bracket : Option Bracket}
    (h : skipFirst cs = .ok (bracket, rest)) : rest.length < cs.length := by
  have hspaces := length_skipSpaces_le cs
  unfold skipFirst at h
  split at h
  · cases h
  rename_i c tail heq
  rw [heq, List.length_cons] at hspaces
  have name {name : List Char} {b : Option Bracket}
      (h : (readName name tail).map (fun rest => (b, rest)) = .ok (bracket, rest)) :
      rest.length < cs.length := by
    obtain ⟨a, ha, rfl⟩ := length_of_map_ok h
    have := readName_length ha
    simp only
    omega
  split at h
  · exact name h
  split at h
  · exact name h
  split at h
  · exact name h
  split at h
  · obtain ⟨r, ha, rfl⟩ := length_of_map_ok h
    have := skipNumber_length ha
    simp only
    omega
  split at h
  · obtain ⟨r, ha, rfl⟩ := length_of_map_ok h
    have := skipNumber_length ha
    simp only [List.length_cons] at *
    omega
  split at h
  · obtain ⟨r, ha, rfl⟩ := length_of_map_ok h
    have := skipString_length ha
    simp only
    omega
  split at h
  · cases h
    omega
  split at h
  · cases h
    omega
  · cases h

/-- What comes before a value within a bracket: nothing in a list, the key and
its colon in an object. -/
def skipKey (bracket : Bracket) (cs : List Char) : Except Fault (List Char) :=
  match bracket with
  | .list => .ok cs
  | .map =>
    match skipSpaces cs with
    | [] => .error ⟨.endInObject, [], 0⟩
    | c :: rest =>
      if c = '"' then
        match skipString rest with
        | .error fault => .error fault
        | .ok rest => readColon rest
      else .error ⟨.keyNotString, c :: rest, 1⟩

theorem skipKey_length {bracket : Bracket} {cs rest : List Char} (h : skipKey bracket cs = .ok rest) :
    rest.length ≤ cs.length := by
  have hspaces := length_skipSpaces_le cs
  cases bracket with
  | list =>
    cases h
    exact Nat.le_refl _
  | map =>
    simp only [skipKey] at h
    split at h
    · cases h
    · rename_i heq
      rw [heq, List.length_cons] at hspaces
      split at h
      · split at h
        · cases h
        · rename_i hstring
          have := skipString_length hstring
          have := readColon_length h
          omega
      · cases h

/-- On to the next value, closing the brackets that end here. `afterValue` says
whether a value has just ended, so that a comma may follow. The result holds the
brackets around the next value; if there are none, all is read. -/
def skipClosing (afterValue : Bool) (brackets : List Bracket) (cs : List Char) :
    Except Fault (List Bracket × List Char) :=
  match brackets with
  | [] => .ok ([], cs)
  | bracket :: outer =>
    match skipSpaces cs with
    | [] => .error ⟨bracket.atEnd, [], 0⟩
    | c :: rest =>
      if c = bracket.closing then skipClosing true outer rest
      else if afterValue = false then
        (skipKey bracket (c :: rest)).map fun rest => (bracket :: outer, rest)
      else if c = ',' then
        (skipKey bracket rest).map fun rest => (bracket :: outer, rest)
      else .error ⟨bracket.notClosed, c :: rest, 1⟩

theorem skipClosing_length {afterValue : Bool} {brackets result : List Bracket}
    {cs rest : List Char} (h : skipClosing afterValue brackets cs = .ok (result, rest)) :
    rest.length ≤ cs.length := by
  induction brackets generalizing cs afterValue with
  | nil =>
    cases h
    exact Nat.le_refl _
  | cons bracket outer ih =>
    have hspaces := length_skipSpaces_le cs
    unfold skipClosing at h
    split at h
    · cases h
    · rename_i heq
      rw [heq, List.length_cons] at hspaces
      split at h
      · have := ih h
        omega
      · split at h
        · obtain ⟨r, ha, rfl⟩ := length_of_map_ok h
          have := skipKey_length ha
          simp only [List.length_cons] at *
          omega
        · split at h
          · obtain ⟨r, ha, rfl⟩ := length_of_map_ok h
            have := skipKey_length ha
            simp only
            omega
          · cases h

/-- One value within the brackets given, and everything up to their end. -/
def skipValue (brackets : List Bracket) (cs : List Char) : Except Fault (List Char) :=
  match _hfirst : skipFirst cs with
  | .error fault => .error fault
  | .ok (opened, afterFirst) =>
    match _hclosing : skipClosing opened.isNone (opened.toList ++ brackets) afterFirst with
    | .error fault => .error fault
    | .ok ([], rest) => .ok rest
    | .ok (bracket :: outer, rest) => skipValue (bracket :: outer) rest
termination_by cs.length
decreasing_by
  have := skipFirst_length _hfirst
  have := skipClosing_length _hclosing
  omega

theorem skipValue_length {brackets : List Bracket} {cs rest : List Char}
    (h : skipValue brackets cs = .ok rest) : rest.length < cs.length := by
  fun_induction skipValue brackets cs with
  | case1 => cases h
  | case2 => cases h
  | case3 =>
    rename_i hfirst _ hclosing
    cases h
    exact Nat.lt_of_le_of_lt (skipClosing_length hclosing) (skipFirst_length hfirst)
  | case4 =>
    rename_i hfirst _ _ _ hclosing ih
    have := skipFirst_length hfirst
    have := skipClosing_length hclosing
    have := ih h
    omega

/-- A value that is passed over. -/
def skipped : Reader Unit where
  read cs := (skipValue [] cs).map fun rest => ((), rest)
  shortens h := by
    obtain ⟨r, ha, rfl⟩ := length_of_map_ok h
    exact skipValue_length ha

end BuildConductor.Json
