import BuildConductor.Json.Printer
import BuildConductor.Text.Lines
import BuildConductor.Text.Quoted

/-! What can be wrong with a text.

A fault says why reading stopped and which part of the text was still unread, so
that its place can be found from the text alone. Places are counted in bytes:
lines from one, columns from one within a line, and column zero is the end of the
line before. -/
namespace BuildConductor.Json

/-- What stood where something else was wanted. -/
inductive Found where
  | null
  | boolean (value : Bool)
  | number (value : Number)
  | text (value : String)
  | list
  | map

/-- What was wanted. -/
inductive Wanted where
  | document
  | text
  | map
  | moduleSwitches
  | dependencySwitches
  | boolean

/-- Why reading stopped. -/
inductive Reason where
  | endInValue
  | endInString
  | endInList
  | endInObject
  | expectedColon
  | expectedCommaOrBracket
  | expectedCommaOrBrace
  | expectedIdentifier
  | expectedValue
  | invalidEscape
  | invalidNumber
  | numberOutOfRange
  | controlCharacter
  | keyNotString
  | loneSurrogate
  | endInHexEscape
  | trailingComma
  | trailingCharacters
  | nestedTooDeep
  | wrongType (found : Found) (wanted : Wanted)
  | duplicateField (name : String)

def Found.message : Found → String
  | .null => "null"
  | .boolean true => "boolean `true`"
  | .boolean false => "boolean `false`"
  | .number (.integer value) => "integer `" ++ toString value ++ "`"
  | .number (.real value) =>
    "floating point `" ++ String.ofList (Decimal.documentLayout.text value) ++ "`"
  | .text value => "string " ++ Text.quote value
  | .list => "sequence"
  | .map => "map"

def Wanted.message : Wanted → String
  | .document => "struct Document"
  | .text => "a string"
  | .map => "a map"
  | .moduleSwitches => "struct ModuleConfig"
  | .dependencySwitches => "struct ThirdPartyConfig"
  | .boolean => "a boolean"

def Reason.message : Reason → String
  | .endInValue => "EOF while parsing a value"
  | .endInString => "EOF while parsing a string"
  | .endInList => "EOF while parsing a list"
  | .endInObject => "EOF while parsing an object"
  | .expectedColon => "expected `:`"
  | .expectedCommaOrBracket => "expected `,` or `]`"
  | .expectedCommaOrBrace => "expected `,` or `\x7d`"
  | .expectedIdentifier => "expected ident"
  | .expectedValue => "expected value"
  | .invalidEscape => "invalid escape"
  | .invalidNumber => "invalid number"
  | .numberOutOfRange => "number out of range"
  | .controlCharacter => "control character (\\u0000-\\u001F) found while parsing a string"
  | .keyNotString => "key must be a string"
  | .loneSurrogate => "lone leading surrogate in hex escape"
  | .endInHexEscape => "unexpected end of hex escape"
  | .trailingComma => "trailing comma"
  | .trailingCharacters => "trailing characters"
  | .nestedTooDeep => "recursion limit exceeded"
  | .wrongType found wanted => "invalid type: " ++ found.message ++ ", expected " ++ wanted.message
  | .duplicateField name => "duplicate field `" ++ name ++ "`"

/-- Reading stopped `ahead` bytes into what was left unread, or at the end of the
text if there are fewer. -/
structure Fault where
  reason : Reason
  unread : List Char
  ahead : Nat

def utf8Length : List Char → Nat
  | [] => 0
  | c :: rest => c.utf8Size + utf8Length rest

/-- The number of bytes before the fault. -/
def Fault.offset (fault : Fault) (text : List Char) : Nat :=
  min (utf8Length text) (utf8Length text - utf8Length fault.unread + fault.ahead)

/-- A line and a column. -/
structure Place where
  line : Nat
  column : Nat
deriving DecidableEq, Repr

/-- Where a text has reached after some bytes, starting at a place. -/
def Place.advance (place : Place) : List Char → Nat → Place
  | [], _ => place
  | c :: rest, bytes =>
    if bytes < c.utf8Size then ⟨place.line, place.column + bytes⟩
    else if c = '\n' then Place.advance ⟨place.line + 1, 0⟩ rest (bytes - 1)
    else Place.advance ⟨place.line, place.column + c.utf8Size⟩ rest (bytes - c.utf8Size)

def Fault.place (fault : Fault) (text : List Char) : Place :=
  Place.advance ⟨1, 0⟩ text (fault.offset text)

/-- The reason with its place. -/
def Fault.message (fault : Fault) (text : List Char) : String :=
  let place := fault.place text
  s!"{fault.reason.message} at line {place.line} column {place.column}"

/-- A part of a text: so many bytes from an offset. -/
structure Span where
  offset : Nat
  length : Nat
deriving DecidableEq, Repr

/-- The bytes before a place, column zero counting as column one; a line or a
column beyond the end of its text or line stops there. -/
def Place.offsetIn (place : Place) (text : List Char) : Nat :=
  let pieces := Text.pieces text
  if place.line = 0 then utf8Length text
  else
    let before := (pieces.take (place.line - 1)).flatten
    match pieces[place.line - 1]? with
    | none => utf8Length text
    | some piece => utf8Length before + min (place.column - 1) (utf8Length piece)

/-- The byte that a place names, or nothing at the end of the text. -/
def Place.spanIn (place : Place) (text : List Char) : Span :=
  let offset := min (place.offsetIn text) (utf8Length text)
  ⟨offset, if offset < utf8Length text then 1 else 0⟩

end BuildConductor.Json
