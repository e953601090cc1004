import Widgetry.Component.Literal
import Widgetry.Component.Name

/-!
Words: what is written into code without quotes although it comes from a document. There are three
sorts, names of components, keys of styles that can stand bare, and the numbers of options, and all
of them hold letters and digits of ASCII, underscores and dollar signs only.

Words matter to every reader of code in this library. A quote, a bracket or an angle bracket in a
word would open or close something, and a sign in it would be taken for an attribute; that neither
happens is told from the characters alone (`isWordChar`), so the readers never look at how a word
was made.
-/

namespace Widgetry.Component

/-- The characters of a word. -/
def isWordChar (c : Char) : Bool :=
  c.isAlphanum || c == '_' || c == '$'

/-- What holds of the ASCII characters one by one. -/
theorem of_ascii {p : Char → Prop} (h : ∀ n < 128, p (Char.ofNat n)) {c : Char}
    (hc : c.toNat < 128) : p c := by
  simpa [Char.ofNat_toNat] using h c.toNat hc

theorem toNat_lt_of_isAlphanum {c : Char} (h : c.isAlphanum = true) : c.toNat < 128 := by
  change (decide (c.val ≥ 65 ∧ c.val ≤ 90)
    || (decide (c.val ≥ 97) && decide (c.val ≤ 122))
    || (decide (c.val ≥ 48) && decide (c.val ≤ 57))) = true at h
  simp only [Bool.or_eq_true, Bool.and_eq_true, decide_eq_true_eq, ge_iff_le,
    UInt32.le_iff_toNat_le] at h
  change ((65 ≤ c.toNat ∧ c.toNat ≤ 90) ∨ (97 ≤ c.toNat ∧ c.toNat ≤ 122))
    ∨ (48 ≤ c.toNat ∧ c.toNat ≤ 57) at h
  omega

theorem toNat_lt_of_isWordChar {c : Char} (h : isWordChar c = true) : c.toNat < 128 := by
  simp only [isWordChar, Bool.or_eq_true, beq_iff_eq] at h
  rcases h with (h | rfl) | rfl
  · exact toNat_lt_of_isAlphanum h
  · decide
  · decide

theorem toNat_lt_of_isNameChar {c : Char} (h : isNameChar c = true) : c.toNat < 128 := by
  simp only [isNameChar, Bool.or_eq_true, beq_iff_eq] at h
  rcases h with h | rfl
  · exact toNat_lt_of_isAlphanum h
  · decide

theorem isNameChar_toUpper {c : Char} (h : isNameChar c = true) : isNameChar c.toUpper = true :=
  of_ascii (p := fun d => isNameChar d = true → isNameChar d.toUpper = true)
    (by decide) (toNat_lt_of_isNameChar h) h

/-! ## Names, numbers and bare keys are words -/

theorem isNameChar_of_mem_joinedPieces {start : Bool} {title : List Char} {c : Char}
    (h : c ∈ joinedPieces start title) : isNameChar c = true := by
  induction title generalizing start with
  | nil => simp [joinedPieces] at h
  | cons d ds ih =>
    rw [joinedPieces] at h
    split at h
    · rename_i hd
      rcases List.mem_cons.1 h with rfl | h
      · split
        · exact isNameChar_toUpper hd
        · exact hd
      · exact ih h
    · exact ih h

theorem isNameChar_of_mem_nameChars {title : List Char} {c : Char} (h : c ∈ nameChars title) :
    isNameChar c = true := by
  have ending : ∀ d ∈ nameEnding, isNameChar d = true :=
    List.all_eq_true.1 (by decide : nameEnding.all isNameChar = true)
  rw [nameChars] at h
  split at h
  · exact ending c h
  · rename_i d ds hpieces
    rcases List.mem_append.1 h with h | h
    · rcases List.mem_append.1 h with h | h
      · split at h
        · rw [List.mem_singleton.1 h]
          decide
        · simp at h
      · exact isNameChar_of_mem_joinedPieces (hpieces ▸ h)
    · exact ending c h

theorem isWordChar_of_mem_name {title : String} {c : Char} (h : c ∈ (name title).toList) :
    isWordChar c = true := by
  rw [name, String.toList_ofList] at h
  have hname := isNameChar_of_mem_nameChars h
  simp only [isNameChar, Bool.or_eq_true] at hname
  simp only [isWordChar, Bool.or_eq_true]
  exact .inl hname

theorem isWordChar_of_mem_toString {n : Nat} {c : Char} (h : c ∈ (toString n).toList) :
    isWordChar c = true := by
  have hdigit : c.isDigit = true :=
    Nat.isDigit_of_mem_toDigits (b := 10) (n := n) (by decide) (by decide) (by simpa using h)
  simp [isWordChar, Char.isAlphanum, hdigit]

theorem isWordChar_of_mem_bareName {s : String} (hs : isBareName s = true) {c : Char}
    (h : c ∈ s.toList) : isWordChar c = true := by
  rw [isBareName] at hs
  split at hs
  · exact absurd hs (by decide)
  · rename_i d ds hchars
    simp only [Bool.and_eq_true, List.all_eq_true] at hs
    rcases List.mem_cons.1 (hchars ▸ h) with rfl | h
    · exact hs.1.1
    · exact hs.2 c h

end Widgetry.Component
