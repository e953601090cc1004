import Mathlib.Data.List.TakeDrop
import Widgetry.Decimal.Reading
import Widgetry.Proofs.Decimal.Digits

/-!
Numbers as people spell them. A text that is read as a number consists of digits, letters, signs and
points (`isNumeralChar_of_real?`), so any other character keeps a text from being taken for one; and
a number is never printed as blank text.

Both facts are about settings that the environment gives. The type of such a value is guessed before
anybody knows which setting it is for, so a text is kept as it stands only if it cannot be taken for
a number; and a number that was guessed for a secret is printed again, so it has to be seen that the
secret does not count as missing then. The first one goes through the readers of numbers one by one,
from digits to words, and the second one through the ways to print them.
-/

namespace Widgetry.Decimal

/-! ## 1. Characters of numbers -/

/-- Whether a character may stand in a number. The letters are those of exponents and of the words
for infinity and for no number. -/
def isNumeralChar (c : Char) : Bool :=
  c.isAlphanum || c == '+' || c == '-' || c == '.'

theorem isNumeralChar_of_isDigit {c : Char} (h : c.isDigit = true) : isNumeralChar c = true := by
  simp [isNumeralChar, Char.isAlphanum, h]

/-- Letters of either case may stand in a number. -/
theorem isNumeralChar_of_toLower {c : Char} (h : isNumeralChar c.toLower = true) :
    isNumeralChar c = true := by
  by_cases hupper : c.val ≥ 'A'.val ∧ c.val ≤ 'Z'.val
  · have hletter : c.isUpper = true := decide_eq_true hupper
    have halphanum : c.isAlphanum = true := by
      show ((c.isUpper || c.isLower) || c.isDigit) = true
      rw [hletter, Bool.true_or, Bool.true_or]
    rw [isNumeralChar, halphanum]
    rfl
  · have hkept : c.toLower = c := dif_neg hupper
    rwa [hkept] at h

/-- A natural number is spelled with digits. -/
theorem isNumeralChar_of_natural? {cs : List Char} {n : Nat} (h : natural? cs = some n) :
    ∀ c ∈ cs, isNumeralChar c = true := by
  rw [natural?] at h
  split at h
  · rename_i hdigits
    rw [Bool.and_eq_true, List.all_eq_true] at hdigits
    exact fun c hc => isNumeralChar_of_isDigit (hdigits.2 c hc)
  · cases h

/-- A sign is one more such character. -/
theorem isNumeralChar_of_takeSign {cs : List Char}
    (h : ∀ c ∈ (takeSign cs).2, isNumeralChar c = true) : ∀ c ∈ cs, isNumeralChar c = true := by
  revert h
  rw [takeSign.eq_def]
  split
  · exact fun h => List.forall_mem_cons.2 ⟨by decide, h⟩
  · exact fun h => List.forall_mem_cons.2 ⟨by decide, h⟩
  · exact id

/-- An integer is spelled with digits and a sign. -/
theorem isNumeralChar_of_integer? {cs : List Char} {i : Int} (h : integer? cs = some i) :
    ∀ c ∈ cs, isNumeralChar c = true := by
  obtain ⟨_, hn, -⟩ := Option.map_eq_some_iff.1 h
  obtain ⟨n, hn, -⟩ := Option.bind_eq_some_iff.1 hn
  exact isNumeralChar_of_takeSign (isNumeralChar_of_natural? hn)

/-- So is an exponent. -/
theorem isNumeralChar_of_exponent? {cs : List Char} {e : Int} (h : exponent? cs = some e) :
    ∀ c ∈ cs, isNumeralChar c = true := by
  cases cs with
  | nil => exact fun c hc => nomatch hc
  | cons c cs =>
    rw [exponent?] at h
    split at h
    · rename_i hc
      refine List.forall_mem_cons.2 ⟨?_, isNumeralChar_of_integer? h⟩
      rcases Bool.or_eq_true_iff.1 hc with hc | hc <;> rw [beq_iff_eq.1 hc] <;> decide
    · cases h

/-- The digits on both sides of a point, and the point, are all of the mantissa. -/
theorem isNumeralChar_of_parts {cs : List Char}
    (h : ∀ c ∈ cs.takeWhile (· != '.') ++ (cs.dropWhile (· != '.')).drop 1, c.isDigit = true) :
    ∀ c ∈ cs, isNumeralChar c = true := by
  have hparts := List.forall_mem_append.1 h
  rw [← List.takeWhile_append_dropWhile (p := (· != '.')) (l := cs)]
  refine List.forall_mem_append.2 ⟨fun c hc => isNumeralChar_of_isDigit (hparts.1 c hc), ?_⟩
  cases hrest : cs.dropWhile (· != '.') with
  | nil => exact fun c hc => nomatch hc
  | cons point fraction =>
    have hpoint : point = '.' := by
      have hhead := List.head?_dropWhile_not (· != '.') cs
      rw [hrest] at hhead
      simpa using hhead
    rw [hrest] at hparts
    refine List.forall_mem_cons.2 ⟨hpoint ▸ by decide, fun c hc => ?_⟩
    exact isNumeralChar_of_isDigit (hparts.2 c hc)

/-- A number that is not whole has a point or the letter of an exponent besides. -/
theorem isNumeralChar_of_unsignedReal? {f : Format} {negative : Bool} {cs : List Char} {x : Binary}
    (h : unsignedReal? f negative cs = some x) : ∀ c ∈ cs, isNumeralChar c = true := by
  simp only [unsignedReal?, List.span_eq_takeWhile_dropWhile] at h
  split at h
  · rename_i hdigits
    rw [Bool.and_eq_true, List.all_eq_true] at hdigits
    obtain ⟨e, he, -⟩ := Option.map_eq_some_iff.1 h
    rw [← List.takeWhile_append_dropWhile (p := fun c => c != 'e' && c != 'E') (l := cs)]
    exact List.forall_mem_append.2
      ⟨isNumeralChar_of_parts hdigits.1, isNumeralChar_of_exponent? he⟩
  · cases h

/-- Words for numbers are known in capital letters too. -/
theorem isNumeralChar_of_lowerAscii {cs : List Char} {word : String}
    (h : String.ofList (Text.lowerAscii cs) = word)
    (hword : word.toList.all isNumeralChar = true) : ∀ c ∈ cs, isNumeralChar c = true := by
  intro c hc
  refine isNumeralChar_of_toLower (List.all_eq_true.1 hword _ ?_)
  rw [← h, String.toList_ofList]
  exact List.mem_map_of_mem hc

/-- A text that is read as a number has no other characters than those of numbers. -/
theorem isNumeralChar_of_real? {f : Format} {cs : List Char} {x : Binary}
    (h : real? f cs = some x) : ∀ c ∈ cs, isNumeralChar c = true := by
  refine isNumeralChar_of_takeSign ?_
  simp only [real?] at h
  split at h
  · rename_i hword
    rcases Bool.or_eq_true_iff.1 hword with hword | hword <;>
      exact isNumeralChar_of_lowerAscii (beq_iff_eq.1 hword) (by decide)
  · split at h
    · rename_i hword
      exact isNumeralChar_of_lowerAscii (beq_iff_eq.1 hword) (by decide)
    · exact isNumeralChar_of_unsignedReal? h

/-! ## 2. Printed numbers -/

/-- A text is blank if its parts are. -/
theorem isBlankText_append (s s' : String) :
    Text.isBlankText (s ++ s') = (Text.isBlankText s && Text.isBlankText s') := by
  simp [Text.isBlankText]

theorem isBlank_digit : ∀ d < 10, Text.isBlank (Char.ofNat ('0'.toNat + d)) = false := by decide

/-- Digits are to be seen. -/
theorem isBlankText_digitText {d : Nat} (h : d < 10) (rest : List Nat) :
    Text.isBlankText (digitText (d :: rest)) = false := by
  have hblank := isBlank_digit d h
  simp only [Text.isBlankText, digitText, String.toList_ofList, List.map_cons, List.all_cons,
    hblank, Bool.false_and]

theorem isBlankText_repr (n : Nat) : Text.isBlankText (Nat.repr n) = false := by
  have htext : Nat.repr n = digitText (digitsOf n) := by
    rw [Nat.repr, ← digitChars_digitsOf]
    rfl
  rw [htext]
  cases hdigits : digitsOf n with
  | nil => exact absurd hdigits (proper_digitsOf n).ne_nil
  | cons d rest =>
    exact isBlankText_digitText (lt_ten_of_mem_digitsOf n d (hdigits ▸ List.mem_cons_self)) rest

theorem isBlankText_toString_int (i : Int) : Text.isBlankText (toString i) = false := by
  cases i with
  | ofNat n => exact isBlankText_repr n
  | negSucc n =>
    show Text.isBlankText ("-" ++ Nat.repr (n + 1)) = false
    rw [isBlankText_append, isBlankText_repr, Bool.and_false]

/-- Plain decimals have a digit before the point. -/
theorem isBlankText_digits_plain {d : Digits} {first : Nat} {rest : List Nat}
    (hdigits : d.digits = first :: rest) (hfirst : first < 10) :
    Text.isBlankText (plain.digits d) = false := by
  show Text.isBlankText (plain.positional d) = false
  rw [Layout.positional]
  split
  · rw [isBlankText_append, isBlankText_append]
    rfl
  · rename_i hpoint
    obtain ⟨p, hp⟩ : ∃ p, d.point.toNat = p + 1 := ⟨d.point.toNat - 1, by omega⟩
    have hwhole : Text.isBlankText (digitText (d.digits.take d.point.toNat)) = false := by
      rw [hdigits, hp, List.take_succ_cons]
      exact isBlankText_digitText hfirst _
    dsimp only
    split
    · split <;> simp only [isBlankText_append, hwhole, Bool.false_and]
    · simp only [isBlankText_append, hwhole, Bool.false_and]

/-- A number is printed as something, so no number is a blank secret. -/
theorem isBlankText_plain_text (f : Format) (x : Binary) :
    Text.isBlankText (plain.text f x) = false := by
  cases x with
  | finite negative m e =>
    have hdigits : Text.isBlankText (plain.digits (shortest plain.tie f m e)) = false := by
      rcases shortest_eq_zero_or plain.tie f m e with hzero | ⟨d, rest, hd, -, hsmall⟩
      · rw [hzero]
        exact isBlankText_digits_plain rfl (by decide)
      · exact isBlankText_digits_plain hd (hsmall d List.mem_cons_self)
    rw [Layout.text, isBlankText_append, hdigits, Bool.and_false]
  | infinite negative =>
    cases negative
    · show Text.isBlankText "inf" = false
      decide
    · show Text.isBlankText "-inf" = false
      decide
  | undefined =>
    show Text.isBlankText "NaN" = false
    decide

end Widgetry.Decimal
