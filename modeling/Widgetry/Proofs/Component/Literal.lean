import Widgetry.Component.Literal
import Widgetry.Proofs.Json.Text

/-!
Literals are read back. To a reader of JSON text a literal is a quoted text, which ends where the
literal ends and holds the text that was written (`scanText_literal`). So the text is the value of
its literal (`literalValue?_literal`), and a literal in front of code determines both its text and
the code behind it (`literal_append_inj`). The characters of a literal are inert in a page
(`inert_of_mem_literal`).
-/

namespace Widgetry.Component

open Json (Spells scanText)
open Text (hex4 isControl isSeparator)

/-! ## 1. Characters -/

/-- Whether a character is written by its code point. -/
def isSpelled (c : Char) : Bool :=
  c == '<' || c == '>' || c == '&' || isSeparator c
    || (isControl c && c != '\n' && c != '\r' && c != '\t')

/-- The code points that are written out need four digits and are no surrogates. -/
theorem toNat_lt_of_isSpelled {c : Char} (h : isSpelled c = true) : c.toNat < 0xD800 := by
  simp only [isSpelled, isSeparator, isControl, Bool.or_eq_true, Bool.and_eq_true, beq_iff_eq,
    decide_eq_true_eq] at h
  rcases h with (((rfl | rfl) | rfl) | h) | h
  · decide
  · decide
  · decide
  · omega
  · omega

/-- The characters with a short escape, and what stands for them behind the backslash. -/
def shortForms : List (Char × Char) :=
  [('"', '"'), ('\\', '\\'), ('\n', 'n'), ('\r', 'r'), ('\t', 't')]

/-- The forms that a character can have in a literal: a short escape, its code point, or the
character itself. -/
inductive Form (c : Char) : List Char → Prop
  | short {e : Char} (h : (c, e) ∈ shortForms) : Form c ['\\', e]
  | spelled (h : isSpelled c = true) : Form c ('\\' :: 'u' :: hex4 c.toNat)
  | plain (hquote : c ≠ '"') (hescape : c ≠ '\\') (hcontrol : isControl c = false)
    (hspelled : isSpelled c = false) : Form c [c]

theorem form_literalChar (c : Char) : Form c (literalChar c) := by
  unfold literalChar
  split
  · rename_i h
    exact .short (by simp [beq_iff_eq.1 h, shortForms])
  split
  · rename_i h
    exact .short (by simp [beq_iff_eq.1 h, shortForms])
  split
  · rename_i h
    exact .short (by simp [beq_iff_eq.1 h, shortForms])
  split
  · rename_i h
    exact .short (by simp [beq_iff_eq.1 h, shortForms])
  split
  · rename_i h
    exact .short (by simp [beq_iff_eq.1 h, shortForms])
  split
  · rename_i hn hr ht h
    simp only [Bool.not_eq_true, beq_eq_false_iff_ne] at hn hr ht
    exact .spelled (by simpa [isSpelled, hn, hr, ht, or_assoc] using h)
  · rename_i hq he hn hr ht h
    simp only [beq_iff_eq] at hq he
    simp only [Bool.not_eq_true, Bool.or_eq_false_iff] at h
    exact .plain hq he h.2 (by simp [isSpelled, h])

/-- A reader finds the character that was written. -/
theorem spells_literalChar (c : Char) : Spells c (literalChar c) := by
  have hform := form_literalChar c
  generalize literalChar c = form at hform ⊢
  cases hform with
  | @short e h =>
    have hshort : ∀ p ∈ shortForms, Json.shortEscape? p.2 = some p.1 := by decide
    exact .short (hshort (c, e) h)
  | spelled h => exact .code (toNat_lt_of_isSpelled h)
  | plain hquote hescape hcontrol hspelled =>
    simp only [isControl, Bool.or_eq_false_iff, decide_eq_false_iff_not] at hcontrol
    exact .plain hquote hescape (Nat.not_lt.1 hcontrol.1)

/-- Nothing that is written by its code point is in the form of a character, and no control. -/
theorem inert_of_mem_literalChar {c d : Char} (h : d ∈ literalChar c) :
    isControl d = false ∧ isSpelled d = false := by
  have hform := form_literalChar c
  generalize literalChar c = form at hform h
  have hescape : isControl '\\' = false ∧ isSpelled '\\' = false := by decide
  cases hform with
  | @short e he =>
    have hshort : ∀ p ∈ shortForms, isControl p.2 = false ∧ isSpelled p.2 = false := by decide
    simp only [List.mem_cons, List.not_mem_nil, or_false] at h
    rcases h with rfl | rfl
    · exact hescape
    · exact hshort (c, d) he
  | spelled _ =>
    have hdigit : ∀ k < 16, isControl (Text.hexDigit k) = false
        ∧ isSpelled (Text.hexDigit k) = false := by decide
    simp only [hex4, List.mem_cons, List.not_mem_nil, or_false] at h
    rcases h with rfl | rfl | rfl | rfl | rfl | rfl
    · exact hescape
    · decide
    all_goals exact hdigit _ (Nat.mod_lt _ (by decide))
  | plain _ _ hcontrol hspelled =>
    obtain rfl := List.mem_singleton.1 h
    exact ⟨hcontrol, hspelled⟩

/-! ## 2. Literals -/

theorem inert_of_mem_literal {s : String} {c : Char} (h : c ∈ literal s) :
    isControl c = false ∧ isSpelled c = false := by
  have hquote : isControl '"' = false ∧ isSpelled '"' = false := by decide
  simp only [literal, List.cons_append, List.mem_cons, List.mem_append, List.mem_flatMap,
    List.not_mem_nil, or_false] at h
  rcases h with rfl | ⟨d, -, hd⟩ | rfl
  · exact hquote
  · exact inert_of_mem_literalChar hd
  · exact hquote

/-- A literal is a quoted text: behind its opening quote a reader of JSON text finds what was
written, and stops behind the literal. -/
theorem scanText_literal (s : String) (rest : List Char) :
    (scanText (s.toList.flatMap literalChar ++ '"' :: rest)).token = .text (.ok s)
      ∧ (scanText (s.toList.flatMap literalChar ++ '"' :: rest)).rest = rest :=
  Json.scanText_spelled spells_literalChar s rest

/-- A literal in front of code determines its text and the code. -/
theorem literal_append_inj {s t : String} {r r' : List Char} :
    literal s ++ r = literal t ++ r' ↔ s = t ∧ r = r' := by
  constructor
  · intro h
    have hchars : s.toList.flatMap literalChar ++ '"' :: r
        = t.toList.flatMap literalChar ++ '"' :: r' := by
      simpa [literal] using h
    obtain ⟨htoken, hrest⟩ := scanText_literal s r
    obtain ⟨htoken', hrest'⟩ := scanText_literal t r'
    rw [hchars] at htoken hrest
    exact ⟨by simpa using htoken.symm.trans htoken', hrest.symm.trans hrest'⟩
  · rintro ⟨rfl, rfl⟩
    rfl

/-- The text that a double-quoted literal holds; nothing may follow its closing quote. Quoted texts
of JSON are literals of scripts with the same value, so they are read as such. -/
def literalValue? : List Char → Option String
  | '"' :: cs =>
    match (scanText cs).token, (scanText cs).rest with
    | .text (.ok s), [] => some s
    | _, _ => none
  | _ => none

/-- A literal holds the text that was written. -/
theorem literalValue?_literal (s : String) : literalValue? (literal s) = some s := by
  obtain ⟨htoken, hrest⟩ := scanText_literal s []
  show literalValue? ('"' :: (s.toList.flatMap literalChar ++ ['"'])) = some s
  rw [literalValue?, htoken, hrest]

end Widgetry.Component
