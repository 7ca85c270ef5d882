import BuildConductor.Decimal.Layout
import BuildConductor.Json.Value

/-! Writing values.

One printer serves both forms of a value: the compact form has no blanks, the
pretty form puts every item and member on a line of its own. -/
namespace BuildConductor.Json

/-- What stands around items and members: the text before an item at a depth of
nesting, and the text between a colon and its value. -/
structure Spacing where
  lineBreak : Nat → List Char
  afterColon : List Char

def compactSpacing : Spacing := ⟨fun _ => [], []⟩

/-- Two blanks a level. -/
def prettySpacing : Spacing := ⟨fun depth => '\n' :: List.replicate (2 * depth) ' ', [' ']⟩

/-- A character inside a string. Quotes, backslashes and control characters are
escaped, the latter by their short names where they have one. -/
def escapeChar (c : Char) : List Char :=
  match c with
  | '"' => ['\\', '"']
  | '\\' => ['\\', '\\']
  | '\x08' => ['\\', 'b']
  | '\x0c' => ['\\', 'f']
  | '\n' => ['\\', 'n']
  | '\r' => ['\\', 'r']
  | '\t' => ['\\', 't']
  | _ =>
    if c.toNat < 0x20 then
      ['\\', 'u', '0', '0', Nat.digitChar (c.toNat / 16), Nat.digitChar (c.toNat % 16)]
    else
      [c]

def writeString (s : String) : List Char :=
  '"' :: s.toList.flatMap escapeChar ++ ['"']

def writeNumber : Number → List Char
  | .integer value => (toString value).toList
  | .real value => Decimal.documentLayout.text value

mutual

/-- The text of a value that starts at a depth of nesting. -/
def write (spacing : Spacing) (depth : Nat) : Json → List Char
  | .null => "null".toList
  | .bool true => "true".toList
  | .bool false => "false".toList
  | .number value => writeNumber value
  | .string text => writeString text
  | .array [] => ['[', ']']
  | .array (item :: items) =>
    '[' :: spacing.lineBreak (depth + 1) ++ write spacing (depth + 1) item ++
      writeItems spacing (depth + 1) items ++ spacing.lineBreak depth ++ [']']
  | .object [] => ['\x7b', '\x7d']
  | .object ((key, value) :: members) =>
    '\x7b' :: spacing.lineBreak (depth + 1) ++ writeString key ++ ':' :: spacing.afterColon ++
      write spacing (depth + 1) value ++ writeMembers spacing (depth + 1) members ++
      spacing.lineBreak depth ++ ['\x7d']

/-- Items after the first, each after a comma. -/
def writeItems (spacing : Spacing) (depth : Nat) : List Json → List Char
  | [] => []
  | item :: items =>
    ',' :: spacing.lineBreak depth ++ write spacing depth item ++ writeItems spacing depth items

/-- Members after the first, each after a comma. -/
def writeMembers (spacing : Spacing) (depth : Nat) : List (String × Json) → List Char
  | [] => []
  | (key, value) :: members =>
    ',' :: spacing.lineBreak depth ++ writeString key ++ ':' :: spacing.afterColon ++
      write spacing depth value ++ writeMembers spacing depth members

end

def compact (value : Json) : String :=
  String.ofList (write compactSpacing 0 value)

def pretty (value : Json) : String :=
  String.ofList (write prettySpacing 0 value)

end BuildConductor.Json
