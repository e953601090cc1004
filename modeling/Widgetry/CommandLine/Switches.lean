import Widgetry.Text.Blank

/-!
Switches of a command line: how the words behind a command are read, whatever the command does. A
switch has a long name and maybe a letter. Its value is attached to it or is the next word, which
then must not look like a switch. The reading stops at the first problem, and a value is checked
only when the next switch or the end is reached.

## Sections

1. Switches and problems.
2. What was read.
3. Words.
-/

namespace Widgetry.CommandLine

/-! ## 1. Switches and problems -/

/-- What a switch takes: nothing, any text, or a path, which is not empty. -/
inductive Taking where
  | nothing
  | text
  | path
  deriving Repr, DecidableEq

/-- A switch. -/
structure Switch where
  long : String
  letter : Option Char
  taking : Taking
  required : Bool
  deriving Repr, DecidableEq

/-- Why a command line is not carried out. -/
inductive Refusal where
  | missingRequired
  | unknown
  | unknownCommand
  | missingValue
  | repeated
  | unwantedValue
  | missingCommand
  | nothingGiven
  deriving Repr, DecidableEq

/-- What is said of a refused command line. -/
def Refusal.message : Refusal → String
  | .missingRequired => "a required argument is missing"
  | .unknown => "there is no such argument"
  | .unknownCommand => "there is no such command"
  | .missingValue => "an argument lacks its value"
  | .repeated => "an argument is given more than once"
  | .unwantedValue => "an argument takes no value"
  | .missingCommand => "a command is missing"
  | .nothingGiven => "a command is wanted; try --help"

/-- What reading the words of a command stops with: a refusal, or the wish for help or for the
version. -/
inductive Stop where
  | refused (why : Refusal)
  | help
  | version
  deriving Repr, DecidableEq

/-! ## 2. What was read -/

/-- What was read so far: values by the long names of their switches, the last one first, and the
switch that was read last together with its value, which have not been checked yet. -/
structure Progress where
  values : List (String × String)
  pending : Option (Switch × Option String)
  wantsValue : Bool

namespace Progress

/-- The start of the reading. -/
def start : Progress := ⟨[], none, false⟩

/-- Takes a value of a switch: at most one, and none that is empty where a path is wanted. -/
def accept (p : Progress) (s : Switch) (value : String) : Except Stop Progress :=
  if p.values.any (·.1 == s.long) then .error (.refused .repeated)
  else if s.taking == .path && value.isEmpty then .error (.refused .missingValue)
  else .ok { p with values := (s.long, value) :: p.values }

/-- Checks the switch that was read last. -/
def settle (p : Progress) : Except Stop Progress :=
  match p.pending with
  | none => .ok { p with wantsValue := false }
  | some (_, none) => .error (.refused .missingValue)
  | some (s, some value) => { p with pending := none, wantsValue := false }.accept s value

/-- A switch without value. -/
def flag (p : Progress) (s : Switch) : Except Stop Progress := do
  let p ← p.settle
  if s.long == "help" then .error .help
  else if s.long == "version" then .error .version
  else p.accept s ""

/-- A switch with a value attached to it. -/
def attached (p : Progress) (s : Switch) (value : String) : Except Stop Progress := do
  let p ← p.settle
  p.accept s value

/-- A switch whose value is the next word. -/
def awaiting (p : Progress) (s : Switch) : Except Stop Progress := do
  let p ← p.settle
  return { p with pending := some (s, none), wantsValue := true }

/-- The value of a switch that waits for one. -/
def given (p : Progress) (value : String) : Progress :=
  { p with pending := p.pending.map fun e => (e.1, some value), wantsValue := false }

/-- The value of a switch. -/
def value? (p : Progress) (long : String) : Option String :=
  (p.values.find? (·.1 == long)).map Prod.snd

/-- Checks that the switches are there that have to be. -/
def complete (p : Progress) (switches : List Switch) : Except Stop Progress := do
  let p ← p.settle
  if switches.all fun s => !s.required || (p.value? s.long).isSome then return p
  else .error (.refused .missingRequired)

end Progress

/-! ## 3. Words -/

/-- Reads a long switch without its two dashes. -/
def readLong (switches : List Switch) (p : Progress) (cs : List Char) : Except Stop Progress :=
  let name := String.ofList (cs.takeWhile (· != '='))
  match switches.find? (·.long == name), cs.dropWhile (· != '=') with
  | none, _ => .error (.refused .unknown)
  | some s, [] => if s.taking == .nothing then p.flag s else p.awaiting s
  | some s, _ :: value =>
    if s.taking == .nothing then .error (.refused .unwantedValue)
    else p.attached s (String.ofList value)

/-- A value attached to a letter: a sign of equality before it does not count. -/
def attachedValue : List Char → String
  | '=' :: value => String.ofList value
  | value => String.ofList value

/-- Reads letters behind one dash: letters without value, and at the end one with its value. -/
def readLetters (switches : List Switch) : Progress → List Char → Except Stop Progress
  | p, [] => .ok p
  | p, c :: cs =>
    match switches.find? (·.letter == some c) with
    | none => .error (.refused .unknown)
    | some s =>
      if s.taking == .nothing then
        match p.flag s with
        | .ok p => readLetters switches p cs
        | .error stop => .error stop
      else if cs.isEmpty then p.awaiting s
      else p.attached s (attachedValue cs)

/-- A word of a command line. -/
inductive Word where
  | separator
  | long (cs : List Char)
  | letters (cs : List Char)
  | plain (s : String)

/-- What kind of word a text is. A single dash is a plain word. -/
def Word.ofText (s : String) : Word :=
  match s.toList with
  | ['-', '-'] => .separator
  | '-' :: '-' :: cs => .long cs
  | '-' :: c :: cs => .letters (c :: cs)
  | _ => .plain s

end Widgetry.CommandLine
