import BuildConductor.Text.CaseTable

/-! Capital and small letters.

The full mappings: a character may become several, and a capital sigma becomes a
final sigma exactly where it closes a word. -/
namespace BuildConductor.Text

/-- Whether a code point lies in one of the closed ranges. -/
def inRanges (ranges : List (Nat × Nat)) (n : Nat) : Bool :=
  ranges.any fun range => range.1 ≤ n && n ≤ range.2

/-- The characters a character maps to; one that no table lists maps to itself. -/
def mapCase (expansions : List (Nat × List Nat)) (runs : List CaseRun) (c : Char) : List Char :=
  match expansions.find? fun entry => entry.1 == c.toNat with
  | some entry => entry.2.map Char.ofNat
  | none =>
    match runs.findSome? fun run => run.map? c.toNat with
    | some n => [Char.ofNat n]
    | none => [c]

/-- The capital form of a character. -/
def upperChar (c : Char) : List Char :=
  if c.toNat < 0x80 then [c.toUpper] else mapCase upperExpansions upperRuns c

/-- The small form of a character, its neighbours aside. -/
def lowerChar (c : Char) : List Char :=
  if c.toNat < 0x80 then [c.toLower] else mapCase lowerExpansions lowerRuns c

def upperList (cs : List Char) : List Char :=
  cs.flatMap upperChar

theorem upperList_cons (c : Char) (cs : List Char) :
    upperList (c :: cs) = upperChar c ++ upperList cs :=
  List.flatMap_cons

theorem upperList_append (cs ds : List Char) :
    upperList (cs ++ ds) = upperList cs ++ upperList ds :=
  List.flatMap_append

/-- A text in capital letters. -/
def upper (s : String) : String :=
  String.ofList (upperList s.toList)

/-- Whether the first character that is not passed over has a case. -/
def meetsCased (cs : List Char) : Bool :=
  match cs.dropWhile fun c => inRanges caseIgnorableRanges c.toNat with
  | [] => false
  | c :: _ => inRanges casedRanges c.toNat

/-- Small letters for `cs`, given the characters before it, nearest first. A
capital sigma after a cased letter and before none takes its final form. -/
def lowerList (before : List Char) : List Char → List Char
  | [] => []
  | c :: rest =>
    (if c = 'Σ' then
      [if meetsCased before && !meetsCased rest then 'ς' else 'σ']
    else
      lowerChar c) ++ lowerList (c :: before) rest

/-- A text in small letters. -/
def lower (s : String) : String :=
  String.ofList (lowerList [] s.toList)

/-- Whether two texts are equal up to the case of ASCII letters. -/
def sameUpToAsciiCase (s t : String) : Bool :=
  s.toList.map Char.toLower == t.toList.map Char.toLower

example : upper "straße" = "STRASSE" := by decide +kernel
example : lower "ΟΔΟΣ ΣΑ" = "οδος σα" := by decide +kernel

end BuildConductor.Text
