import BuildConductor.Console
import BuildConductor.Path

/-! Command lines and what can be wrong with them.

A parameter has a long name and may have a letter. It is a switch or takes a
value, and what it does is a change to the settings that are gathered. Arguments, and the
variables that stand in for them, are texts here. -/
namespace BuildConductor.CommandLine

/-- Why a value is refused. -/
inductive ValueFault where
  | missing
  | emptyNumber
  | notANumber
  | numberTooLarge
  | unknownColor (name : String)
deriving DecidableEq, Repr

/-- What a parameter is for. -/
inductive Effect (σ : Type) where
  | switch (set : σ → σ)
  | value (set : String → Except ValueFault (σ → σ))
  /-- Shows how the tool is used. -/
  | help
  /-- Shows the version of the tool. -/
  | version

structure Parameter (σ : Type) where
  name : String
  letter : Option Char
  /-- The variable of the environment that counts where the parameter is not given. -/
  environment : Option String
  effect : Effect σ

namespace Parameter
variable {σ : Type}

/-- The word that stands for the value of a parameter. -/
def valueName (name : String) : String :=
  String.ofList (name.toList.map fun c => if c = '-' then '_' else c.toUpper)

/-- A parameter as it is shown. -/
def display (p : Parameter σ) : String :=
  match p.effect with
  | .value _ => "--" ++ p.name ++ " <" ++ valueName p.name ++ ">"
  | _ => "--" ++ p.name

end Parameter

/-- What is wrong with a command line. Parameters are named as they are shown. -/
inductive UsageError where
  | unexpectedArgument (argument : String)
  | valueRequired (parameter : String)
  | repeated (parameter : String)
  | unexpectedValue (value parameter : String)
  | invalidValue (value parameter reason : String)
deriving DecidableEq, Repr

/-- What is at fault, between quotes. -/
def blamed (text : String) : String :=
  "'" ++ Text.styled "33" text ++ "'"

/-- What is to be written as it is, between quotes. -/
def literal (text : String) : String :=
  "'" ++ Text.styled "1" text ++ "'"

/-- What is wrong, in the words for a terminal. -/
def UsageError.message : UsageError → String
  | .unexpectedArgument argument => s!"unexpected argument {blamed argument} found"
  | .valueRequired parameter => s!"a value is required for {blamed parameter} but none was supplied"
  | .repeated parameter => s!"the argument {blamed parameter} cannot be used multiple times"
  | .unexpectedValue value parameter =>
    s!"unexpected value {blamed value} for {literal parameter} found; no more were expected"
  | .invalidValue value parameter reason =>
    s!"invalid value {blamed value} for {literal parameter}: {reason}"

/-- What shows how a tool is used. -/
def helpOption : String := "--help"

/-- What is wrong and where to look further. Without a terminal it loses all that
only a terminal understands, also where that came with the command line. -/
def UsageError.text (e : UsageError) (terminal : Bool) : String :=
  let text := Text.styled "1;31" "error:" ++ " " ++ e.message ++ "\n\n" ++
    s!"For more information, try {literal helpOption}.\n"
  if terminal then text else Text.plain text

/-- What a refused value means for the command line. -/
def ValueFault.usageError (fault : ValueFault) (value parameter : String) : UsageError :=
  match fault with
  | .missing => .valueRequired parameter
  | .emptyNumber => .invalidValue value parameter "cannot parse integer from empty string"
  | .notANumber => .invalidValue value parameter "invalid digit found in string"
  | .numberTooLarge => .invalidValue value parameter "number too large to fit in target type"
  | .unknownColor name => .invalidValue value parameter (ColorChoice.unknownName name)

/-! ### Values -/

/-- A path is not empty. -/
def pathValue (text : String) : Except ValueFault Path :=
  if text.isEmpty then .error .missing else .ok ⟨text⟩

def colorValue (text : String) : Except ValueFault ColorChoice :=
  match ColorChoice.ofName? text with
  | some choice => .ok choice
  | none => .error (.unknownColor text)

/-- The largest count. -/
def largestCount : Nat := Nat.pow 2 64 - 1

/-- Digits put behind a number, as long as it is not too large. -/
def countDigits (count : Nat) : List Char → Except ValueFault Nat
  | [] => .ok count
  | c :: rest =>
    if !c.isDigit then .error .notANumber
    else
      let next := count * 10 + (c.toNat - '0'.toNat)
      if largestCount < next then .error .numberTooLarge else countDigits next rest

/-- A count has decimal digits only, after a plus sign if there is one. -/
def countValue (text : String) : Except ValueFault Nat :=
  match text.toList with
  | [] => .error .emptyNumber
  | ['+'] => .error .notANumber
  | '+' :: digits => countDigits 0 digits
  | digits => countDigits 0 digits

end BuildConductor.CommandLine
