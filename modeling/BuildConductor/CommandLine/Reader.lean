import BuildConductor.CommandLine.Basic

/-! Reading a command line.

Arguments are taken from left to right. A value that stands in an argument of its
own is looked at only when the next parameter is taken, or at the end; so an
argument that belongs nowhere is noticed before it. Every parameter may be given
once. Parameters that were not given are then looked up in the environment. -/
namespace BuildConductor.CommandLine

/-- Why reading ends before all settings are known. -/
inductive Stop where
  | help
  | version
  | error (e : UsageError)
deriving DecidableEq, Repr

/-- What has been read of a command line. -/
structure Progress (σ : Type) where
  settings : σ
  /-- The names of the parameters that were given. -/
  given : List String
  /-- A parameter with a value in an argument of its own, and that value once it
  has come. -/
  waiting : Option (Parameter σ × Option String)

namespace Progress
variable {σ : Type}

def start (settings : σ) : Progress σ := ⟨settings, [], none⟩

/-- The parameter that a value has to come for. -/
def expecting (progress : Progress σ) : Option (Parameter σ) :=
  match progress.waiting with
  | some (p, none) => some p
  | _ => none

/-- Notes that a parameter is given. -/
def give (progress : Progress σ) (p : Parameter σ) : Except Stop (Progress σ) :=
  if progress.given.contains p.name then .error (.error (.repeated p.display))
  else .ok {progress with given := progress.given ++ [p.name]}

/-- Takes the value of a parameter. -/
def accept (progress : Progress σ) (p : Parameter σ) (value : String) :
    Except Stop (Progress σ) := do
  let progress ← progress.give p
  match p.effect with
  | .value set =>
    match set value with
    | .ok set => .ok {progress with settings := set progress.settings}
    | .error fault => .error (.error (fault.usageError value p.display))
  | _ => .ok progress

/-- Looks at the value that is still waiting. -/
def settle (progress : Progress σ) : Except Stop (Progress σ) :=
  match progress.waiting with
  | none => .ok progress
  | some (p, none) => .error (.error (.valueRequired p.display))
  | some (p, some value) => {progress with waiting := none}.accept p value

/-- Takes a parameter that came without a value. -/
def takeBare (progress : Progress σ) (p : Parameter σ) : Except Stop (Progress σ) := do
  let progress ← progress.settle
  match p.effect with
  | .switch set =>
    let progress ← progress.give p
    .ok {progress with settings := set progress.settings}
  | .value _ => .ok {progress with waiting := some (p, none)}
  | .help => .error .help
  | .version => .error .version

/-- Takes a parameter with a value attached to it. -/
def takeAttached (progress : Progress σ) (p : Parameter σ) (value : String) :
    Except Stop (Progress σ) := do
  match p.effect with
  | .value _ =>
    let progress ← progress.settle
    progress.accept p value
  | _ => .error (.error (.unexpectedValue value p.display))

/-- Takes an argument that names no parameter: the value that is expected, if one
is. -/
def takeOperand (progress : Progress σ) (argument : String) : Except Stop (Progress σ) :=
  match progress.expecting with
  | some p => .ok {progress with waiting := some (p, some argument)}
  | none => .error (.error (.unexpectedArgument argument))

end Progress

variable {σ : Type}

/-- A text up to the first equals sign, and what follows that, if there is one. -/
def splitEquals : List Char → List Char × Option (List Char)
  | [] => ([], none)
  | c :: rest =>
    if c = '=' then ([], some rest)
    else
      let (name, value) := splitEquals rest
      (c :: name, value)

/-- Takes a parameter that is named in full, without the dashes before it. -/
def takeLong (parameters : List (Parameter σ)) (argument : List Char) (progress : Progress σ) :
    Except Stop (Progress σ) :=
  let (name, value) := splitEquals argument
  let name := String.ofList name
  match parameters.find? fun p => p.name == name, value with
  | none, _ => .error (.error (.unexpectedArgument ("--" ++ name)))
  | some p, some value => progress.takeAttached p (String.ofList value)
  | some p, none => progress.takeBare p

/-- A value that stands right behind a letter, with or without an equals sign. -/
def attachedValue : List Char → List Char
  | '=' :: value => value
  | value => value

/-- Takes parameters by their letters. The first that takes a value takes all that
follows it. -/
def takeLetters (parameters : List (Parameter σ)) :
    List Char → Progress σ → Except Stop (Progress σ)
  | [], progress => .ok progress
  | c :: rest, progress =>
    match parameters.find? fun p => p.letter == some c with
    | none => .error (.error (.unexpectedArgument (String.ofList ['-', c])))
    | some p =>
      match p.effect, rest with
      | .value _, value@(_ :: _) => progress.takeAttached p (String.ofList (attachedValue value))
      | _, rest =>
        match progress.takeBare p with
        | .error stop => .error stop
        | .ok progress => takeLetters parameters rest progress

/-- Takes one argument. -/
def take (parameters : List (Parameter σ)) (argument : String) (progress : Progress σ) :
    Except Stop (Progress σ) :=
  match argument.toList with
  | '-' :: '-' :: name => takeLong parameters name progress
  | '-' :: c :: rest => takeLetters parameters (c :: rest) progress
  | _ => progress.takeOperand argument

/-- Takes all arguments. After two dashes alone nothing names a parameter or is a
value any more. -/
def takeAll (parameters : List (Parameter σ)) :
    List String → Progress σ → Except Stop (Progress σ)
  | [], progress => progress.settle
  | argument :: rest, progress =>
    if argument = "--" then
      match rest with
      | [] => progress.settle
      | operand :: _ => .error (.error (.unexpectedArgument operand))
    else
      match take parameters argument progress with
      | .error stop => .error stop
      | .ok progress => takeAll parameters rest progress

/-- Looks up the parameters that were not given. -/
def takeEnvironment (lookup : String → Option String) :
    List (Parameter σ) → Progress σ → Except Stop (Progress σ)
  | [], progress => .ok progress
  | p :: rest, progress =>
    let value := if progress.given.contains p.name then none else p.environment.bind lookup
    match value with
    | none => takeEnvironment lookup rest progress
    | some value =>
      match progress.accept p value with
      | .error stop => .error stop
      | .ok progress => takeEnvironment lookup rest progress

/-- The settings of a command line. -/
def read (parameters : List (Parameter σ)) (start : σ) (arguments : List String)
    (lookup : String → Option String) : Except Stop σ := do
  let progress ← takeAll parameters arguments (.start start)
  let progress ← takeEnvironment lookup parameters progress
  .ok progress.settings

end BuildConductor.CommandLine
