import Widgetry.Proofs.Component.Literal

/-!
Double-quoted literals of scripts, with the grammar of escapes that scripts have: single characters,
two or four hexadecimal digits, code points between braces, continued lines, and any other character
for itself. The value of a literal is a row of UTF-16 code units, and it is a text if no half of a
surrogate pair stands alone in it.

A literal that this library writes has the text it was written for as its value, and reading stops
behind it, whatever comes there (`readText?_literal`). Three of the escapes are used, one per sort
of form (`Component.Form`), and each form of a character is read as the code units of the character.
-/

namespace Widgetry.Script

open Component (Form form_literalChar isSpelled literal literalChar shortForms)
open Json (hexDigit? isLeading isTrailing)
open Text (hex4 hexDigit isControl isSeparator)

/-! ## 1. Code units -/

/-- The UTF-16 code units of a code point. -/
def units (n : Nat) : List Nat :=
  if n < 0x10000 then [n] else [0xD800 + (n - 0x10000) / 0x400, 0xDC00 + (n - 0x10000) % 0x400]

/-- The UTF-16 code units of a text. -/
def textUnits (cs : List Char) : List Nat :=
  cs.flatMap fun c => units c.toNat

/-- The characters of code units, pairs joined; there are none if half of a pair stands alone. -/
def joinUnits : List Nat → Option (List Char)
  | [] => some []
  | n :: ns =>
    if isLeading n then
      match ns with
      | m :: ns =>
        if isTrailing m then
          (joinUnits ns).map (Char.ofNat (0x10000 + (n - 0xD800) * 0x400 + (m - 0xDC00)) :: ·)
        else none
      | [] => none
    else if isTrailing n then none
    else (joinUnits ns).map (Char.ofNat n :: ·)

/-- Code points of characters are no halves of pairs. -/
theorem toNat_lt_or (c : Char) :
    c.toNat < 0xD800 ∨ 0xE000 ≤ c.toNat ∧ c.toNat < 0x110000 := by
  have hvalid : c.toNat < 0xD800 ∨ 0xDFFF < c.toNat ∧ c.toNat < 0x110000 := c.valid
  omega

theorem joinUnits_units (c : Char) (ns : List Nat) :
    joinUnits (units c.toNat ++ ns) = (joinUnits ns).map (c :: ·) := by
  have hpoint := toNat_lt_or c
  rw [units]
  split
  · have hleading : isLeading c.toNat = false := by
      simp only [isLeading, Bool.and_eq_false_iff, decide_eq_false_iff_not]
      omega
    have htrailing : isTrailing c.toNat = false := by
      simp only [isTrailing, Bool.and_eq_false_iff, decide_eq_false_iff_not]
      omega
    rw [List.singleton_append, joinUnits.eq_def]
    simp [hleading, htrailing, Char.ofNat_toNat]
  · have hleading : isLeading (0xD800 + (c.toNat - 0x10000) / 0x400) = true := by
      simp only [isLeading, Bool.and_eq_true, decide_eq_true_eq]
      omega
    have htrailing : isTrailing (0xDC00 + (c.toNat - 0x10000) % 0x400) = true := by
      simp only [isTrailing, Bool.and_eq_true, decide_eq_true_eq]
      omega
    have hjoined : 0x10000 + (0xD800 + (c.toNat - 0x10000) / 0x400 - 0xD800) * 0x400
        + (0xDC00 + (c.toNat - 0x10000) % 0x400 - 0xDC00) = c.toNat := by
      omega
    simp only [List.cons_append, List.nil_append, joinUnits, hleading, htrailing, if_true, hjoined,
      Char.ofNat_toNat]

/-- A text is found again in its code units. -/
theorem joinUnits_textUnits (cs : List Char) : joinUnits (textUnits cs) = some cs := by
  induction cs with
  | nil => rfl
  | cons c cs ih =>
    rw [textUnits, List.flatMap_cons, joinUnits_units, ← textUnits, ih]
    rfl

/-! ## 2. A reader of literals -/

/-- Where a reader stands in a literal: between characters, behind a backslash, in an escape whose
next digit is followed by so many more, with its value so far, behind `\u`, between the braces of an
escape, with its value if there was a digit, behind `\0`, or behind a carriage return that continues
the line. -/
inductive Place where
  | plain
  | escape
  | digits (more value : Nat)
  | unicode
  | braces (value : Option Nat)
  | zero
  | carriage
  deriving Repr, DecidableEq

/-- What a character is in a literal: its end, a fault, or one more character, with the code units
that are read with it and the place behind it. -/
inductive Step where
  | close
  | refuse
  | go (read : List Nat) (place : Place)
  deriving Repr, DecidableEq

/-- The code unit of an escape of a single character. -/
def singleEscape? (c : Char) : Option Nat :=
  [('"', 0x22), ('\'', 0x27), ('\\', 0x5C), ('b', 0x08), ('t', 0x09), ('n', 0x0A), ('v', 0x0B),
    ('f', 0x0C), ('r', 0x0D)].lookup c

/-- A character outside of escapes; lines must not end here. -/
def plainStep (c : Char) : Step :=
  if c == '"' then .close
  else if c == '\\' then .go [] .escape
  else if c == '\n' || c == '\r' then .refuse
  else .go (units c.toNat) .plain

/-- The character behind a backslash. -/
def escapeStep (c : Char) : Step :=
  match singleEscape? c with
  | some n => .go [n] .plain
  | none =>
    if c == 'x' then .go [] (.digits 1 0)
    else if c == 'u' then .go [] .unicode
    else if c == '0' then .go [0] .zero
    else if c.isDigit then .refuse
    else if c == '\r' then .go [] .carriage
    else if c == '\n' || isSeparator c then .go [] .plain
    else .go (units c.toNat) .plain

/-- A digit of an escape with a fixed number of them. -/
def digitStep (more value : Nat) (c : Char) : Step :=
  match hexDigit? c, more with
  | none, _ => .refuse
  | some d, 0 => .go [value * 16 + d] .plain
  | some d, more + 1 => .go [] (.digits more (value * 16 + d))

/-- A character between the braces of an escape. -/
def bracesStep (value : Option Nat) (c : Char) : Step :=
  match hexDigit? c, value with
  | some d, _ =>
    if value.getD 0 * 16 + d < 0x110000 then .go [] (.braces (some (value.getD 0 * 16 + d)))
    else .refuse
  | none, some n => if c == '}' then .go (units n) .plain else .refuse
  | none, none => .refuse

/-- What a character is at a place. -/
def Place.step : Place → Char → Step
  | plain, c => plainStep c
  | escape, c => escapeStep c
  | digits more value, c => digitStep more value c
  | unicode, c => if c == '{' then .go [] (.braces none) else digitStep 3 0 c
  | braces value, c => bracesStep value c
  | zero, c => if c.isDigit then .refuse else plainStep c
  | carriage, c => if c == '\n' then .go [] .plain else plainStep c

/-- Reads a literal from a place on: its code units, and the code behind its closing quote. -/
def read : Place → List Char → Option (List Nat × List Char)
  | _, [] => none
  | p, c :: cs =>
    match p.step c with
    | .close => some ([], cs)
    | .refuse => none
    | .go ns q => (read q cs).map fun r => (ns ++ r.1, r.2)

/-- Reads the literal at the front of code: its text, and the code behind it. -/
def readText? : List Char → Option (String × List Char)
  | '"' :: cs => do
    let (ns, rest) ← read .plain cs
    return (String.ofList (← joinUnits ns), rest)
  | _ => none

theorem read_cons_of_go {p q : Place} {c : Char} {ns : List Nat} (h : p.step c = .go ns q)
    (cs : List Char) : read p (c :: cs) = (read q cs).map fun r => (ns ++ r.1, r.2) := by
  rw [read, h]

/-! ## 3. The literals of this library -/

/-- A piece of a literal is read as code units, whatever comes behind it. -/
def Reads (piece : List Char) (ns : List Nat) : Prop :=
  ∀ rest, read .plain (piece ++ rest) = (read .plain rest).map fun r => (ns ++ r.1, r.2)

theorem reads_nil : Reads [] [] := by
  intro rest
  simp

theorem Reads.append {a b : List Char} {ns ms : List Nat} (ha : Reads a ns) (hb : Reads b ms) :
    Reads (a ++ b) (ns ++ ms) := by
  intro rest
  rw [List.append_assoc, ha, hb, Option.map_map]
  simp [Function.comp_def]

theorem reads_single {e : Char} {n : Nat} (h : singleEscape? e = some n) :
    Reads ['\\', e] [n] := by
  intro rest
  have hescape : Place.escape.step e = .go [n] .plain := by
    simp only [Place.step, escapeStep, h]
  rw [List.cons_append, read_cons_of_go (show Place.plain.step '\\' = .go [] .escape from rfl),
    List.singleton_append, read_cons_of_go hescape]
  simp [Function.comp_def]

theorem hexDigit?_hexDigit : ∀ k < 16, hexDigit? (hexDigit k) = some k := by decide

/-- A digit that is followed by more. -/
theorem step_digit (more value : Nat) {k : Nat} (h : k < 16) :
    (Place.digits (more + 1) value).step (hexDigit k)
      = .go [] (.digits more (value * 16 + k)) := by
  simp only [Place.step, digitStep, hexDigit?_hexDigit k h]

theorem step_lastDigit (value : Nat) {k : Nat} (h : k < 16) :
    (Place.digits 0 value).step (hexDigit k) = .go [value * 16 + k] .plain := by
  simp only [Place.step, digitStep, hexDigit?_hexDigit k h]

/-- The first of four digits is no brace. -/
theorem step_firstDigit {k : Nat} (h : k < 16) :
    Place.unicode.step (hexDigit k) = .go [] (.digits 2 k) := by
  have hbrace : ∀ k < 16, (hexDigit k == '{') = false := by decide
  simp only [Place.step, digitStep, hbrace k h, hexDigit?_hexDigit k h, Bool.false_eq_true,
    if_false, Nat.zero_mul, Nat.zero_add]

theorem reads_hex4 {n : Nat} (h : n < 0x10000) : Reads ('\\' :: 'u' :: hex4 n) [n] := by
  intro rest
  have hmod (k : Nat) : k % 16 < 16 := Nat.mod_lt k (by decide)
  have hvalue : ((n / 4096 % 16 * 16 + n / 256 % 16) * 16 + n / 16 % 16) * 16 + n % 16 = n := by
    omega
  simp only [hex4, List.cons_append, List.nil_append]
  rw [read_cons_of_go (show Place.plain.step '\\' = .go [] .escape from rfl),
    read_cons_of_go (show Place.escape.step 'u' = .go [] .unicode from rfl),
    read_cons_of_go (step_firstDigit (hmod _)), read_cons_of_go (step_digit 1 _ (hmod _)),
    read_cons_of_go (step_digit 0 _ (hmod _)), read_cons_of_go (step_lastDigit _ (hmod _)), hvalue]
  simp [Function.comp_def]

theorem reads_plain {c : Char} (hquote : c ≠ '"') (hescape : c ≠ '\\')
    (hcontrol : isControl c = false) : Reads [c] (units c.toNat) := by
  intro rest
  have hline : c ≠ '\n' ∧ c ≠ '\r' := by
    constructor <;> rintro rfl <;> exact absurd hcontrol (by decide)
  have hstep : Place.plain.step c = .go (units c.toNat) .plain := by
    simp [Place.step, plainStep, hquote, hescape, hline.1, hline.2]
  rw [List.singleton_append, read_cons_of_go hstep]

/-- The form of a character is read as its code units. -/
theorem reads_literalChar (c : Char) : Reads (literalChar c) (units c.toNat) := by
  have hform := form_literalChar c
  generalize literalChar c = form at hform ⊢
  cases hform with
  | @short e h =>
    have hshort : ∀ p ∈ shortForms, singleEscape? p.2 = some p.1.toNat
        ∧ units p.1.toNat = [p.1.toNat] := by decide
    rw [(hshort _ h).2]
    exact reads_single (hshort _ h).1
  | spelled h =>
    have hlt := Component.toNat_lt_of_isSpelled h
    rw [units, if_pos (by omega)]
    exact reads_hex4 (by omega)
  | plain hquote hescape hcontrol _ => exact reads_plain hquote hescape hcontrol

theorem reads_literalChars (cs : List Char) : Reads (cs.flatMap literalChar) (textUnits cs) := by
  induction cs with
  | nil => exact reads_nil
  | cons c cs ih => exact (reads_literalChar c).append ih

/-- **A literal has the text that was written as its value**, and reading stops behind it. -/
theorem readText?_literal (s : String) (rest : List Char) :
    readText? (literal s ++ rest) = some (s, rest) := by
  have hread : read .plain (s.toList.flatMap literalChar ++ '"' :: rest)
      = some (textUnits s.toList, rest) := by
    rw [reads_literalChars]
    simp [read, Place.step, plainStep]
  have hcode : literal s ++ rest = '"' :: (s.toList.flatMap literalChar ++ '"' :: rest) := by
    simp [literal]
  rw [hcode, readText?, hread]
  simp [joinUnits_textUnits]

/-- Escapes that this library does not write are read too. -/
example : readText? r#""\x41\u{1F600}\uD83D\uDE00\
\v\q" + 1"#.toList
    = some ("A😀😀\x0bq", " + 1".toList) := by
  decide +kernel

end Widgetry.Script
