/-!
Blank text. White space is the White_Space property of the Unicode standard, controls are its
category Cc, and trimming removes white space from both ends of a text. Main statements: a trimmed
text neither starts nor ends with white space, trimming it again changes nothing, and nothing is
left of a text exactly if it is blank.
-/

namespace Widgetry.Text

/-- The White_Space property of the Unicode standard. -/
def isBlank (c : Char) : Bool :=
  let n := c.toNat
  (9 ≤ n && n ≤ 13) || n == 0x20 || n == 0x85 || n == 0xA0 || n == 0x1680
    || (0x2000 ≤ n && n ≤ 0x200A) || n == 0x2028 || n == 0x2029 || n == 0x202F
    || n == 0x205F || n == 0x3000

/-- The category Cc of the Unicode standard. -/
def isControl (c : Char) : Bool :=
  c.toNat < 0x20 || (0x7F ≤ c.toNat && c.toNat < 0xA0)

/-- Line and paragraph separator, which end a line in scripts. -/
def isSeparator (c : Char) : Bool :=
  c.toNat == 0x2028 || c.toNat == 0x2029

/-- Drops white space from the left end. -/
def trimLeft (cs : List Char) : List Char :=
  cs.dropWhile isBlank

/-- Drops white space from the right end. -/
def trimRight (cs : List Char) : List Char :=
  (cs.reverse.dropWhile isBlank).reverse

/-- Drops white space from both ends. -/
def trim (cs : List Char) : List Char :=
  trimRight (trimLeft cs)

theorem isBlank_of_head?_trimLeft {cs : List Char} {c : Char} (h : (trimLeft cs).head? = some c) :
    isBlank c = false := by
  have hd := List.head?_dropWhile_not isBlank cs
  rw [trimLeft] at h
  rw [h] at hd
  exact hd

theorem isBlank_of_getLast?_trimRight {cs : List Char} {c : Char}
    (h : (trimRight cs).getLast? = some c) : isBlank c = false := by
  rw [trimRight, List.getLast?_reverse] at h
  exact isBlank_of_head?_trimLeft h

/-- Trimming the right end keeps a first character that is not white space. -/
theorem trimRight_cons {c : Char} (h : isBlank c = false) (cs : List Char) :
    trimRight (c :: cs) = c :: trimRight cs := by
  rw [trimRight, List.reverse_cons, List.dropWhile_append]
  split
  · rename_i hnil
    simp [trimRight, List.isEmpty_iff.1 hnil, h]
  · simp [trimRight]

theorem trimLeft_of_head? {cs : List Char} (h : ∀ c, cs.head? = some c → isBlank c = false) :
    trimLeft cs = cs := by
  cases cs with
  | nil => rfl
  | cons c cs => simp [trimLeft, h c rfl]

theorem trimRight_trimRight (cs : List Char) : trimRight (trimRight cs) = trimRight cs := by
  have h : trimLeft (trimLeft cs.reverse) = trimLeft cs.reverse :=
    trimLeft_of_head? fun _ hc => isBlank_of_head?_trimLeft hc
  have : trimRight (trimRight cs) = (trimLeft (trimLeft cs.reverse)).reverse := by
    simp [trimRight, trimLeft]
  rw [this, h]
  rfl

theorem isBlank_of_head?_trim {cs : List Char} {c : Char} (h : (trim cs).head? = some c) :
    isBlank c = false := by
  rw [trim] at h
  cases hl : trimLeft cs with
  | nil => simp [hl, trimRight] at h
  | cons d ds =>
    have hd : isBlank d = false := isBlank_of_head?_trimLeft (by rw [hl]; rfl)
    rw [hl, trimRight_cons hd] at h
    exact Option.some.inj h ▸ hd

theorem isBlank_of_getLast?_trim {cs : List Char} {c : Char}
    (h : (trim cs).getLast? = some c) : isBlank c = false :=
  isBlank_of_getLast?_trimRight h

@[simp] theorem trim_trim (cs : List Char) : trim (trim cs) = trim cs := by
  have hl : trimLeft (trim cs) = trim cs := trimLeft_of_head? fun _ hc => isBlank_of_head?_trim hc
  rw [trim, hl, trim, trimRight_trimRight]

theorem trimLeft_eq_nil_iff {cs : List Char} : trimLeft cs = [] ↔ ∀ c ∈ cs, isBlank c = true := by
  induction cs with
  | nil => simp [trimLeft]
  | cons c cs ih =>
    cases h : isBlank c
    · simp [trimLeft, h]
    · have hd : trimLeft (c :: cs) = trimLeft cs := List.dropWhile_cons_of_pos h
      rw [hd, ih]
      simp [h]

theorem trim_eq_nil_iff {cs : List Char} : trim cs = [] ↔ ∀ c ∈ cs, isBlank c = true := by
  constructor
  · intro h
    cases hl : trimLeft cs with
    | nil => exact trimLeft_eq_nil_iff.1 hl
    | cons d ds =>
      have hd : isBlank d = false := isBlank_of_head?_trimLeft (by rw [hl]; rfl)
      rw [trim, hl, trimRight_cons hd] at h
      exact absurd h (by simp)
  · intro h
    have hl : trimLeft cs = [] := trimLeft_eq_nil_iff.2 h
    simp [trim, hl, trimRight]

/-- The text without white space at its ends. -/
def trimmed (s : String) : String :=
  String.ofList (trim s.toList)

/-- A text is blank when trimming leaves nothing of it. -/
def isBlankText (s : String) : Bool :=
  s.toList.all isBlank

theorem isBlankText_iff {s : String} : isBlankText s = true ↔ trim s.toList = [] := by
  rw [trim_eq_nil_iff, isBlankText, List.all_eq_true]

/-- A text without the given character at its right end, however often it stood there. -/
def dropTrailing (c : Char) (s : String) : String :=
  String.ofList (s.toList.reverse.dropWhile (· == c)).reverse

/-- Whether a text starts with another. -/
def startsWith : List Char → List Char → Bool
  | _, [] => true
  | [], _ :: _ => false
  | c :: cs, d :: ds => c == d && startsWith cs ds

/-- Whether a text occurs in another. -/
def occursIn (needle : List Char) : List Char → Bool
  | [] => needle.isEmpty
  | c :: cs => startsWith (c :: cs) needle || occursIn needle cs

/-- Cuts a text at every occurrence of a character. -/
def cut (sep : Char) : List Char → List (List Char)
  | [] => [[]]
  | c :: cs =>
    match cut sep cs with
    | [] => [[c]]
    | piece :: pieces => if c == sep then [] :: piece :: pieces else (c :: piece) :: pieces

/-- Lower-case letters for the upper-case letters of ASCII, all else unchanged. -/
def lowerAscii (cs : List Char) : List Char :=
  cs.map Char.toLower

end Widgetry.Text
