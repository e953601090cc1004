import Widgetry.Decimal.Reading
import Widgetry.Toml.Value

/-!
Scalars of a document: numbers, truth values, dates and times, and quoted text. Numbers may have
single underscores between digits. Every reader of quoted text starts behind the opening quotes and
returns the text and what is left behind the closing ones.

## Sections

1. Numbers.
2. Dates and times.
3. Quoted text.
-/

namespace Widgetry.Toml

/-! ## 1. Numbers -/

/-- Digits that may have single underscores between them, without the underscores. -/
def grouped? (isDigit : Char → Bool) (cs : List Char) : Option (List Char) :=
  let groups := Text.cut '_' cs
  if groups.all fun g => !g.isEmpty && g.all isDigit then some groups.flatten else none

/-- An integer in a base with its own mark. -/
def marked? (base : Nat) (cs : List Char) : Option Value :=
  (grouped? (Decimal.isDigitOf base) cs).map fun ds =>
    .integer (Decimal.ofDigitValues base (ds.map Decimal.hexValue))

/-- Decimal digits of a whole number: no zero leads. -/
def whole? (cs : List Char) : Option (List Char) :=
  match cs with
  | '0' :: _ :: _ => none
  | cs => grouped? Char.isDigit cs

/-- The exponent of a number, which may lead with zeros. -/
def exponent? : List Char → Option Int
  | [] => some 0
  | c :: cs =>
    if c == 'e' || c == 'E' then
      let (neg, ds) := Decimal.takeSign cs
      (grouped? Char.isDigit ds).map fun ds =>
        let n : Int := (Decimal.ofDigitValues 10 (ds.map Decimal.digitValue) : Nat)
        if neg then -n else n
    else none

/-- The digits behind the point of a number: if there is a point, there are digits. -/
def fraction? : List Char → Option (List Char)
  | [] => some []
  | _ :: cs => grouped? Char.isDigit cs

/-- A number of 64 bits with a fraction, an exponent or both; one that overflows is refused. -/
def float? (cs : List Char) : Option Value := do
  let (neg, rest) := Decimal.takeSign cs
  if rest == "inf".toList then return .float (.infinite neg)
  if rest == "nan".toList then return .float .undefined
  let (mantissa, tail) := rest.span fun c => c != 'e' && c != 'E'
  let (before, behind) := mantissa.span (· != '.')
  let whole ← whole? before
  let fraction ← fraction? behind
  let exponent ← exponent? tail
  match Decimal.double.ofDigits neg ((whole ++ fraction).map Decimal.digitValue)
      (exponent - fraction.length) with
  | .finite neg m e => some (.float (.finite neg m e))
  | _ => none

/-- A decimal integer behind an optional sign. -/
def decimal? (cs : List Char) : Option Value :=
  let (neg, rest) := Decimal.takeSign cs
  (whole? rest).map fun ds =>
    let n : Int := (Decimal.ofDigitValues 10 (ds.map Decimal.digitValue) : Nat)
    .integer (if neg then -n else n)

/-- A number. -/
def number? : List Char → Option Value
  | '0' :: 'x' :: cs => marked? 16 cs
  | '0' :: 'o' :: cs => marked? 8 cs
  | '0' :: 'b' :: cs => marked? 2 cs
  | cs => (decimal? cs).or (float? cs)

/-! ## 2. Dates and times -/

/-- A number of exactly so many decimal digits, and the rest. -/
def fixed? (count : Nat) (cs : List Char) : Option (Nat × List Char) :=
  let ds := cs.take count
  if ds.length == count then (Decimal.natural? ds).map fun n => (n, cs.drop count) else none

/-- The rest behind a character. -/
def behind? (c : Char) : List Char → Option (List Char)
  | d :: cs => if c == d then some cs else none
  | [] => none

/-- The number of days of a month. -/
def daysOf (year month : Nat) : Nat :=
  if month == 2 then if year % 4 == 0 && (year % 100 != 0 || year % 400 == 0) then 29 else 28
  else if month == 4 || month == 6 || month == 9 || month == 11 then 30 else 31

/-- A date and the rest. -/
def date? (cs : List Char) : Option (List Char) := do
  let (year, rest) ← fixed? 4 cs
  let (month, rest) ← fixed? 2 (← behind? '-' rest)
  let (day, rest) ← fixed? 2 (← behind? '-' rest)
  if 1 ≤ month && month ≤ 12 && 1 ≤ day && day ≤ daysOf year month then some rest else none

/-- The fraction of a second: at most nine digits count, and zeros at their end are not written
unless there is nothing else. -/
def secondFraction? : List Char → Option (String × List Char)
  | '.' :: cs =>
    let ds := cs.takeWhile Char.isDigit
    let kept := ((ds.take 9).reverse.dropWhile (· == '0')).reverse
    if ds.isEmpty then none
    else
      some (if kept.isEmpty then ".0" else String.ofList ('.' :: kept), cs.dropWhile Char.isDigit)
  | cs => some ("", cs)

/-- The seconds of a time, which may be left out. -/
def seconds? : List Char → Option (String × List Char)
  | ':' :: cs => do
    let (second, rest) ← fixed? 2 cs
    let (fraction, rest) ← secondFraction? rest
    if second ≤ 60 then some (String.ofList (':' :: cs.take 2) ++ fraction, rest) else none
  | cs => some ("", cs)

/-- A time of the day as its text, and the rest. -/
def time? (cs : List Char) : Option (String × List Char) := do
  let (hour, rest) ← fixed? 2 cs
  let (minute, rest) ← fixed? 2 (← behind? ':' rest)
  let (seconds, rest) ← seconds? rest
  if hour ≤ 23 && minute ≤ 59 then some (String.ofList (cs.take 5) ++ seconds, rest) else none

/-- The distance of a time from the universal one as its text; no distance is a positive one. -/
def offset? : List Char → Option String
  | [] => some ""
  | ['Z'] => some "Z"
  | ['z'] => some "Z"
  | sign :: cs => do
    let (hour, rest) ← fixed? 2 cs
    let (minute, rest) ← fixed? 2 (← behind? ':' rest)
    if (sign == '+' || sign == '-') && hour ≤ 23 && minute ≤ 59 && rest.isEmpty then
      let sign := if hour == 0 && minute == 0 then '+' else sign
      some (String.ofList (sign :: cs.take 5))
    else none

/-- A date, a time of the day, or both, of which both may have an offset. -/
def moment? (cs : List Char) : Option Value :=
  match date? cs with
  | some [] => some (.moment (String.ofList cs))
  | some (mark :: rest) => do
    let (time, rest) ← time? rest
    let offset ← offset? rest
    if mark == 'T' || mark == 't' || mark == ' ' then
      some (.moment (String.ofList (cs.take 10) ++ "T" ++ time ++ offset))
    else none
  | none => do
    let (time, rest) ← time? cs
    if rest.isEmpty then some (.moment time) else none

/-- A scalar that is not quoted. -/
def bare? (cs : List Char) : Option Value :=
  if cs == "true".toList then some (.boolean true)
  else if cs == "false".toList then some (.boolean false)
  else (number? cs).or (moment? cs)

/-! ## 3. Quoted text -/

/-- Whether a character may stand in quoted text and in comments: no control but the tab. -/
def isPlain (c : Char) : Bool :=
  c == '\t' || (0x20 ≤ c.toNat && c.toNat != 0x7F)

/-- The character of a code point, none for a surrogate or beyond the last one. -/
def charOf? (n : Nat) : Option Char :=
  if n.isValidChar then some (Char.ofNat n) else none

/-- A character by so many digits of base sixteen, and the rest. -/
def coded? (count : Nat) (cs : List Char) : Option (Char × List Char) :=
  let ds := cs.take count
  if ds.length == count && ds.all (Decimal.isDigitOf 16) then
    (charOf? (Decimal.ofDigitValues 16 (ds.map Decimal.hexValue))).map fun c => (c, cs.drop count)
  else none

/-- The character that a letter stands for behind a backslash. -/
def escaped? : Char → Option Char
  | 'b' => some '\x08'
  | 't' => some '\t'
  | 'n' => some '\n'
  | 'f' => some '\x0c'
  | 'r' => some '\r'
  | 'e' => some '\x1b'
  | '"' => some '"'
  | '\\' => some '\\'
  | _ => none

/-- What stands behind a backslash as a character, and the rest. -/
def escape? : List Char → Option (Char × List Char)
  | 'x' :: cs => coded? 2 cs
  | 'u' :: cs => coded? 4 cs
  | 'U' :: cs => coded? 8 cs
  | c :: cs => (escaped? c).map fun d => (d, cs)
  | [] => none

theorem length_of_coded? {count : Nat} {cs rest : List Char} {c : Char}
    (h : coded? count cs = some (c, rest)) : rest.length ≤ cs.length := by
  simp only [coded?] at h
  split at h
  · obtain ⟨d, -, hd⟩ := Option.map_eq_some_iff.1 h
    injection hd with _ hrest
    simp [← hrest]
  · simp at h

theorem length_of_escape? {cs rest : List Char} {c : Char} (h : escape? cs = some (c, rest)) :
    rest.length < cs.length := by
  unfold escape? at h
  split at h
  · exact Nat.lt_succ_of_le (length_of_coded? h)
  · exact Nat.lt_succ_of_le (length_of_coded? h)
  · exact Nat.lt_succ_of_le (length_of_coded? h)
  · obtain ⟨d, -, hd⟩ := Option.map_eq_some_iff.1 h
    injection hd with _ hrest
    simp [← hrest]
  · simp at h

/-- Text in double quotes on one line. -/
def basic? (cs : List Char) : Option (List Char × List Char) :=
  match cs with
  | [] => none
  | '"' :: rest => some ([], rest)
  | '\\' :: rest =>
    match _h : escape? rest with
    | some (c, rest') => (basic? rest').map fun (text, left) => (c :: text, left)
    | none => none
  | c :: rest =>
    if isPlain c then (basic? rest).map fun (text, left) => (c :: text, left) else none
termination_by cs.length
decreasing_by
  · have := length_of_escape? _h
    simp only [List.length_cons]
    omega
  · simp

/-- Text in single quotes on one line, taken as it is. -/
def literal? : List Char → Option (List Char × List Char)
  | [] => none
  | '\'' :: rest => some ([], rest)
  | c :: rest =>
    if isPlain c then (literal? rest).map fun (text, left) => (c :: text, left) else none

/-- Whether a character is a space or a tab. -/
def isGap (c : Char) : Bool := c == ' ' || c == '\t'

/-- Whether a character is a space, a tab or part of a line end. -/
def isLayout (c : Char) : Bool := isGap c || c == '\n' || c == '\r'

/-- The end of a line at the start of a text: the rest behind it. -/
def lineEnd? : List Char → Option (List Char)
  | '\n' :: cs => some cs
  | '\r' :: '\n' :: cs => some cs
  | _ => none

/-- The rest behind three quotes, with up to two quotes before them that belong to the text. -/
def closing? (quote : Char) (cs : List Char) : Option (List Char × List Char) :=
  let count := (cs.takeWhile (· == quote)).length
  if count < 3 then none
  else
    let extra := min (count - 3) 2
    some (List.replicate extra quote, cs.drop (3 + extra))

/-- Text in three double quotes. A backslash at the end of a line takes away the line end and all
layout behind it. -/
def longBasic? (cs : List Char) : Option (List Char × List Char) :=
  match closing? '"' cs with
  | some done => some done
  | none =>
    match cs with
    | [] => none
    | '\\' :: rest =>
      if (lineEnd? (rest.dropWhile isGap)).isSome then longBasic? (rest.dropWhile isLayout)
      else
        match _h : escape? rest with
        | some (c, rest') => (longBasic? rest').map fun (text, left) => (c :: text, left)
        | none => none
    | c :: rest =>
      if isPlain c || (lineEnd? (c :: rest)).isSome then
        (longBasic? rest).map fun (text, left) => (c :: text, left)
      else none
termination_by cs.length
decreasing_by
  · have := (List.dropWhile_suffix isLayout (l := rest)).length_le
    simp only [List.length_cons]
    omega
  · have := length_of_escape? _h
    simp only [List.length_cons]
    omega
  · simp

/-- Text in three single quotes, taken as it is. -/
def longLiteral? (cs : List Char) : Option (List Char × List Char) :=
  match closing? '\'' cs with
  | some done => some done
  | none =>
    match cs with
    | [] => none
    | c :: rest =>
      if isPlain c || (lineEnd? (c :: rest)).isSome then
        (longLiteral? rest).map fun (text, left) => (c :: text, left)
      else none

/-- A text without the line end at its start. -/
def dropLineEnd (cs : List Char) : List Char := (lineEnd? cs).getD cs

/-- Quoted text of any kind at the start of a text, with its quotes. -/
def quoted? : List Char → Option (List Char × List Char)
  | '"' :: '"' :: '"' :: rest => longBasic? (dropLineEnd rest)
  | '"' :: rest => basic? rest
  | '\'' :: '\'' :: '\'' :: rest => longLiteral? (dropLineEnd rest)
  | '\'' :: rest => literal? rest
  | _ => none

end Widgetry.Toml
