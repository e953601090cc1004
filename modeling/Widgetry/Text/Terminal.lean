/-!
Text for outputs that are no terminal: the sequences that steer a terminal are taken out, and so are
all other controls but white space. A text is printed in pieces. A sequence that one piece leaves
open goes on in the next one, while a change of style between them closes it.

## Sections

1. Places in steering sequences.
2. Printing.
-/

namespace Widgetry.Text

/-! ## 1. Places in steering sequences -/

/-- Where in a steering sequence a character stands: outside of all, behind the introducing escape,
behind an escape with a selector, in the parameters of a control, in the three parts before the data
of a device, in data that is passed on, or in a command to the operating system. -/
inductive Steering where
  | outside
  | introduced
  | selected
  | control
  | deviceEntry
  | deviceParameters
  | deviceSelected
  | data
  | command
  deriving Repr, DecidableEq

/-- The controls that are white space. -/
def isPrintedControl (c : Char) : Bool :=
  c == '\t' || c == '\n' || c == '\x0c' || c == '\r'

/-- The characters that are printed outside of sequences. -/
def isPrintable (c : Char) : Bool :=
  isPrintedControl c || (0x20 ≤ c.toNat && c.toNat != 0x7F)

/-- Whether a character lies between two numbers. -/
def isBetween (least greatest : Nat) (c : Char) : Bool :=
  least ≤ c.toNat && c.toNat ≤ greatest

/-- Whether a byte of a character is the one that ends data. -/
def hasTerminator (c : Char) : Bool :=
  (String.singleton c).toUTF8.toList.contains 0x9C

namespace Steering

/-- The place behind a character that follows the introducing escape. -/
def introduce (c : Char) : Steering :=
  if c == '[' then .control
  else if c == ']' then .command
  else if c == 'P' then .deviceEntry
  else if c == 'X' || c == '^' || c == '_' then .data
  else if isBetween 0x20 0x2F c then .selected
  else if isBetween 0x30 0x7E c then .outside
  else .introduced

/-- The place behind a character that follows the entry of a device's data. -/
def enterDevice (c : Char) : Steering :=
  if isBetween 0x20 0x2F c then .deviceSelected
  else if isBetween 0x30 0x3F c then .deviceParameters
  else if isBetween 0x40 0x7E c then .data
  else .deviceEntry

/-- Whether white space is printed at a place. -/
def showsBlanks : Steering → Bool
  | .outside | .introduced | .selected | .control => true
  | _ => false

/-- The place behind a character that is not printed and neither opens nor breaks off a sequence. -/
def advance (c : Char) : Steering → Steering
  | .outside => .outside
  | .introduced => introduce c
  | .selected => if isBetween 0x30 0x7E c then .outside else .selected
  | .control => if isBetween 0x40 0x7E c then .outside else .control
  | .deviceEntry => enterDevice c
  | .deviceParameters =>
    if isBetween 0x20 0x2F c then .deviceSelected
    else if isBetween 0x3C 0x7E c then .data
    else .deviceParameters
  | .deviceSelected => if isBetween 0x30 0x7E c then .data else .deviceSelected
  | .data => if hasTerminator c then .outside else .data
  | .command => if c == '\x07' then .outside else .command

/-- Whether a character is printed at a place, and the place behind it. An escape opens a sequence
anywhere, and two controls break one off. -/
def next (s : Steering) (c : Char) : Bool × Steering :=
  if c == '\x1b' then (false, .introduced)
  else if c == '\x18' || c == '\x1a' then (false, .outside)
  else if s.showsBlanks && isPrintedControl c then (true, s)
  else if s == .outside && isPrintable c then (true, s)
  else (false, s.advance c)

end Steering

/-! ## 2. Printing -/

/-- Whether a character is printed, and the place behind it. Behind a printed character all that can
be printed is, though a sequence may still be open around it; a character beyond ASCII closes that
sequence. -/
def printStep (isRunning : Bool) (s : Steering) (c : Char) : Bool × Steering :=
  if isRunning && isPrintable c then (true, if c.toNat < 0x80 then s else .outside)
  else s.next c

/-- The characters that are printed, and the place behind the last one. -/
def printChars (isRunning : Bool) (s : Steering) : List Char → List Char × Steering
  | [] => ([], s)
  | c :: cs =>
    let (isPrinted, s) := printStep isRunning s c
    let (rest, s) := printChars isPrinted s cs
    (if isPrinted then c :: rest else rest, s)

/-- A piece of what is sent to an output: text, or a change of style. -/
inductive Piece where
  | text (s : String)
  | style
  deriving Repr, DecidableEq

/-- The characters that are printed of pieces. -/
def printPieces (s : Steering) : List Piece → List Char
  | [] => []
  | .style :: pieces => printPieces .outside pieces
  | .text t :: pieces =>
    let (cs, s) := printChars false s t.toList
    cs ++ printPieces s pieces

/-- Pieces as they are printed to something that is no terminal. -/
def printed (pieces : List Piece) : String :=
  String.ofList (printPieces .outside pieces)

/-- Text without controls is printed as it is. -/
theorem printChars_outside {isRunning : Bool} {cs : List Char} (h : cs.all isPrintable) :
    printChars isRunning .outside cs = (cs, .outside) := by
  induction cs generalizing isRunning with
  | nil => rfl
  | cons c cs ih =>
    obtain ⟨hc, hcs⟩ : isPrintable c = true ∧ cs.all isPrintable = true := by simpa using h
    have hne : c ≠ '\x1b' ∧ c ≠ '\x18' ∧ c ≠ '\x1a' := by
      refine ⟨?_, ?_, ?_⟩ <;> rintro rfl <;> simp [isPrintable, isPrintedControl] at hc
    have hstep : printStep isRunning .outside c = (true, .outside) := by
      simp [printStep, Steering.next, Steering.showsBlanks, hc, hne]
    simp [printChars, hstep, ih hcs]

end Widgetry.Text
