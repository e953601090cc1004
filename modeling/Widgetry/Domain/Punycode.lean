/-!
Labels of domain names in characters of ASCII. The other characters of a label are taken out and
written behind a hyphen, in ascending order, as numbers that say how many steps to go to the next
insertion; a step goes to the next place and, past the last place, to the next character. The digits
of a number have weights that adapt to the size of the numbers before it.

## Sections

1. Numbers.
2. Writing.
3. Reading.
-/

namespace Widgetry.Domain.Punycode

/-! ## 1. Numbers -/

/-- The number of digits. -/
def base : Nat := 36

/-- The first character that is taken out. -/
def firstCode : Nat := 0x80

/-- The bias before the first number. -/
def firstBias : Nat := 72

/-- Numbers and weights stay below this one. -/
def limit : Nat := 0x100000000

/-- The digit of a value. -/
def digit (n : Nat) : Char :=
  if n < 26 then Char.ofNat ('a'.toNat + n) else Char.ofNat ('0'.toNat + (n - 26))

/-- The value of a digit. -/
def value? (c : Char) : Option Nat :=
  if 'a' ≤ c && c ≤ 'z' then some (c.toNat - 'a'.toNat)
  else if '0' ≤ c && c ≤ '9' then some (c.toNat - '0'.toNat + 26)
  else none

/-- A digit reads back as its value. -/
theorem value?_digit {n : Nat} (h : n < base) : value? (digit n) = some n := by
  have all : ∀ m ∈ List.range base, value? (digit m) = some m := by decide
  exact all n (List.mem_range.mpr h)

/-- A digit below the threshold of its place is the last one of its number. -/
def threshold (bias place : Nat) : Nat :=
  if place ≤ bias then 1 else min 26 (place - bias)

/-- A threshold is at least one, so that every number ends. -/
theorem threshold_pos (bias place : Nat) : 0 < threshold bias place := by
  unfold threshold; split <;> omega

/-- Divides by thirty-five until a number is below 456, and counts the divisions. -/
def scaleDown (n count : Nat) : Nat × Nat :=
  if 455 < n then scaleDown (n / 35) (count + 1) else (n, count)
termination_by n
decreasing_by omega

/-- The bias after a number. -/
def adapt (number size : Nat) (isFirst : Bool) : Nat :=
  let half := if isFirst then number / 700 else number / 2
  let (rest, count) := scaleDown (half + half / size) 0
  count * base + base * rest / (rest + 38)

/-! ## 2. Writing -/

/-- The digits of a number from a place on. -/
def digits (bias place n : Nat) : List Char :=
  let least := threshold bias place
  if n < least then [digit n]
  else
    let free := base - least
    digit (least + (n - least) % free) :: digits bias (place + base) ((n - least) / free)
termination_by n
decreasing_by
  have h := threshold_pos bias place
  exact Nat.lt_of_le_of_lt (Nat.div_le_self _ _) (by omega)

/-- What is written so far: the digits, the steps since the last insertion, the bias, and how many
characters stand in the label by now. -/
structure Written where
  text : List Char
  steps : Nat
  bias : Nat
  size : Nat

/-- Passes a character of the label while a code point is inserted; `plain` is the number of the
characters that are not taken out. -/
def pass (plain code : Nat) (w : Written) (c : Char) : Written :=
  if c.toNat < code then { w with steps := w.steps + 1 }
  else if c.toNat == code then
    ⟨w.text ++ digits w.bias base w.steps, 0, adapt w.steps (w.size + 1) (w.size == plain),
      w.size + 1⟩
  else w

/-- Writes the insertions of code points that ascend; `code` is the one that steps have reached. -/
def write (label : List Char) (plain code : Nat) (w : Written) : List Nat → Written
  | [] => w
  | next :: codes =>
    let w := { w with steps := w.steps + (next - code) * (w.size + 1) }
    let w := label.foldl (pass plain next) w
    write label plain (next + 1) { w with steps := w.steps + 1 } codes

/-- A label in characters of ASCII. -/
def encode (label : List Char) : List Char :=
  let plain := label.filter (·.toNat < firstCode)
  let codes := (label.filter (firstCode ≤ ·.toNat)).map Char.toNat
  let w := write label plain.length firstCode ⟨[], 0, firstBias, plain.length⟩
    (codes.mergeSort (· ≤ ·)).eraseReps
  (if plain.isEmpty then [] else plain ++ ['-']) ++ w.text

/-! ## 3. Reading -/

/-- What is read so far: the label, the code point and the steps from its first place that the
insertions have reached, and of the number that is being read the steps with it, the weight and the
place of its next digit; and the bias. -/
structure Read where
  text : List Char
  code : Nat
  start : Nat
  steps : Nat
  weight : Nat
  place : Nat
  bias : Nat

/-- Inserts a character as a number says that has ended. -/
def Read.insert? (r : Read) (steps : Nat) : Option Read :=
  let size := r.text.length + 1
  let code := r.code + steps / size
  let place := steps % size
  if code.isValidChar then
    some ⟨r.text.take place ++ Char.ofNat code :: r.text.drop place, code, place + 1, place + 1, 1,
      base, adapt (steps - r.start) size (r.start == 0)⟩
  else none

/-- Reads a digit. -/
def Read.digit? (r : Read) (c : Char) : Option Read :=
  match value? c with
  | none => none
  | some n =>
    let steps := r.steps + n * r.weight
    let least := threshold r.bias r.place
    let weight := r.weight * (base - least)
    if limit ≤ steps then none
    else if n < least then r.insert? steps
    else if limit ≤ weight then none
    else some { r with steps, weight, place := r.place + base }

/-- The label that characters of ASCII stand for. -/
def decode? (cs : List Char) : Option (List Char) :=
  let behind := (cs.reverse.takeWhile (· != '-')).reverse
  let plain := (cs.take (cs.length - behind.length)).dropLast
  let numbers := if plain.isEmpty then cs else behind
  let start : Read := ⟨plain, firstCode, 0, 0, 1, base, firstBias⟩
  match numbers.foldlM Read.digit? start with
  | some r => if r.place == base && plain.all (·.toNat < firstCode) then some r.text else none
  | none => none

end Widgetry.Domain.Punycode
