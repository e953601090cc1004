import Mathlib.Algebra.Group.Nat.Even
import Mathlib.Data.List.Induction
import Widgetry.Proofs.Script.Literal

/-!
Literals character by character. A literal is faithful, since it is read as the text that was
written, by scripts and as JSON, and it is inert: it has no control, no separator and nothing of
markup, all quotes but the outer ones are escaped, and every escape by code point has the four
digits of a character below two to the sixteenth (`literal_faithful`).

What stands at a place of a literal is found by cutting it there (`Cut`): the cut goes through the
form of one character of the text, or it is at the closing quote. Before the form of a character the
number of backslashes is even, so a backslash there begins an escape and a quote would be the
closing one (`even_endBackslashes`).
-/

namespace Widgetry.Component

open Text (hex4 hexDigit isControl isSeparator)

variable {chars before after : List Char} {c : Char}

/-! ## 1. Backslashes at the end -/

/-- The number of backslashes with which code ends. -/
def endBackslashes (cs : List Char) : Nat :=
  (cs.reverse.takeWhile (· == '\\')).length

theorem endBackslashes_backslash (cs : List Char) :
    endBackslashes (cs ++ ['\\']) = endBackslashes cs + 1 := by
  simp [endBackslashes]

theorem endBackslashes_of_ne (hc : c ≠ '\\') (cs : List Char) :
    endBackslashes (cs ++ [c]) = 0 := by
  simp [endBackslashes, hc]

theorem hexDigit_ne : ∀ k < 16, hexDigit k ≠ '\\' ∧ hexDigit k ≠ '"' := by decide

/-- In the digits of a code point there are no backslashes and no quotes. -/
theorem ne_of_mem_hex4 {n : Nat} (h : c ∈ hex4 n) : c ≠ '\\' ∧ c ≠ '"' := by
  simp only [hex4, List.mem_cons, List.not_mem_nil, or_false] at h
  rcases h with rfl | rfl | rfl | rfl <;> exact hexDigit_ne _ (Nat.mod_lt _ (by decide))

theorem endBackslashes_hex4 (cs : List Char) (n : Nat) : endBackslashes (cs ++ hex4 n) = 0 := by
  have hlast : cs ++ hex4 n = (cs ++ [hexDigit (n / 4096 % 16), hexDigit (n / 256 % 16),
      hexDigit (n / 16 % 16)]) ++ [hexDigit (n % 16)] := by simp [hex4]
  rw [hlast, endBackslashes_of_ne (hexDigit_ne _ (Nat.mod_lt _ (by decide))).1]

/-- Behind the form of a character the backslashes are even if they were so before it. -/
theorem even_endBackslashes_append (h : Even (endBackslashes before)) (c : Char) :
    Even (endBackslashes (before ++ literalChar c)) := by
  have hform := form_literalChar c
  generalize literalChar c = form at hform ⊢
  cases hform with
  | @short e _ =>
    rw [show before ++ ['\\', e] = before ++ ['\\'] ++ [e] by simp]
    by_cases he : e = '\\'
    · subst he
      rw [endBackslashes_backslash, endBackslashes_backslash, add_assoc]
      exact h.add (by decide)
    · rw [endBackslashes_of_ne he]
      exact Even.zero
  | spelled _ =>
    rw [show before ++ '\\' :: 'u' :: hex4 c.toNat = before ++ ['\\', 'u'] ++ hex4 c.toNat by simp,
      endBackslashes_hex4]
    exact Even.zero
  | plain _ hescape _ _ =>
    rw [endBackslashes_of_ne hescape]
    exact Even.zero

theorem even_endBackslashes (chars : List Char) :
    Even (endBackslashes ('"' :: chars.flatMap literalChar)) := by
  induction chars using List.reverseRecOn with
  | nil => decide
  | append_singleton chars c ih =>
    rw [List.flatMap_append, List.flatMap_singleton, ← List.cons_append]
    exact even_endBackslashes_append ih c

/-! ## 2. Places in a literal -/

/-- A place of a literal behind its opening quote, with what comes before it, what stands there and
what comes after it: the closing quote, or a place in the form of a character. -/
inductive Cut (chars : List Char) : List Char → Char → List Char → Prop
  | closing : Cut chars (chars.flatMap literalChar) '"' []
  | inside {xs ys a b : List Char} {x c : Char} (hchars : chars = xs ++ x :: ys)
    (hform : literalChar x = a ++ c :: b) :
    Cut chars (xs.flatMap literalChar ++ a) c (b ++ (ys.flatMap literalChar ++ ['"']))

/-- Every place of a literal is one of these. -/
theorem cut_of_eq (h : chars.flatMap literalChar ++ ['"'] = before ++ c :: after) :
    Cut chars before c after := by
  induction chars generalizing before with
  | nil =>
    cases before with
    | nil =>
      obtain ⟨rfl, rfl⟩ : '"' = c ∧ [] = after := by simpa using h
      exact .closing
    | cons d before => simp at h
  | cons x chars ih =>
    rw [List.flatMap_cons, List.append_assoc] at h
    -- in front of the place stand all the forms up to one that it is in or behind
    have behind {rest : List Char} (hrest : Cut chars rest c after) :
        Cut (x :: chars) (literalChar x ++ rest) c after := by
      cases hrest with
      | closing => exact .closing
      | @inside xs ys a b y _ hchars hform =>
        rw [← List.append_assoc, ← List.flatMap_cons]
        exact .inside (congrArg (x :: ·) hchars) hform
    rcases List.append_eq_append_iff.1 h with ⟨rest, hbefore, hrest⟩ | ⟨rest, hform, hrest⟩
    · rw [hbefore]
      exact behind (ih hrest)
    · cases rest with
      | nil =>
        have hcut : Cut chars [] c after := ih (by simpa using hrest.symm)
        rw [List.append_nil] at hform
        rw [← hform]
        simpa using behind hcut
      | cons d rest =>
        obtain ⟨rfl, rfl⟩ := List.cons.inj hrest
        exact @Cut.inside _ [] _ _ _ _ _ rfl hform

/-- A place of a literal behind its first character. -/
theorem exists_cut_of_literal_eq {t : String} (hbefore : before ≠ [])
    (h : literal t = before ++ c :: after) :
    ∃ rest, before = '"' :: rest ∧ Cut t.toList rest c after := by
  obtain ⟨d, rest, rfl⟩ := List.exists_cons_of_ne_nil hbefore
  obtain ⟨rfl, hrest⟩ := List.cons.inj h
  exact ⟨rest, rfl, cut_of_eq hrest⟩

/-! ## 3. Quotes and escapes -/

/-- A quote in the form of a character is escaped. -/
theorem eq_of_quote_in_form {x : Char} {a b : List Char} (h : literalChar x = a ++ '"' :: b) :
    a = ['\\'] := by
  have hform := form_literalChar x
  rw [h] at hform
  generalize hpiece : a ++ '"' :: b = piece at hform
  cases hform with
  | short _ => rcases a with _ | ⟨y, _ | ⟨z, a⟩⟩ <;> simp_all
  | spelled _ =>
    have hmem : '"' ∈ '\\' :: 'u' :: hex4 x.toNat := by simp [← hpiece]
    simp only [List.mem_cons] at hmem
    rcases hmem with hq | hq | hq
    · exact absurd hq (by decide)
    · exact absurd hq (by decide)
    · exact absurd rfl (ne_of_mem_hex4 hq).2
  | plain hquote =>
    cases a with
    | nil => exact absurd (List.cons.inj hpiece).1.symm hquote
    | cons y a => simp at hpiece

/-- Of the quotes behind the first one the closing one has evenly many backslashes before it, and
every other one oddly many. -/
theorem eq_nil_iff_even {t : String} (hbefore : before ≠ [])
    (h : literal t = before ++ '"' :: after) :
    after = [] ↔ Even (endBackslashes before) := by
  obtain ⟨rest, rfl, hcut⟩ := exists_cut_of_literal_eq hbefore h
  cases hcut with
  | closing => simp [even_endBackslashes]
  | @inside xs ys a b x _ hchars hform =>
    have hodd : ¬ Even (endBackslashes ('"' :: (xs.flatMap literalChar ++ a))) := by
      rw [eq_of_quote_in_form hform, ← List.cons_append, endBackslashes_backslash, Nat.even_add_one,
        not_not]
      exact even_endBackslashes xs
    simp [hodd]

/-- A backslash in the form of a character begins it, or it is the character. -/
theorem eq_of_backslash_in_form {x : Char} {a b : List Char} (h : literalChar x = a ++ '\\' :: b) :
    a = [] ∨ a = ['\\'] ∧ b = [] := by
  have hform := form_literalChar x
  rw [h] at hform
  generalize hpiece : a ++ '\\' :: b = piece at hform
  cases hform with
  | short _ => rcases a with _ | ⟨y, _ | ⟨z, a⟩⟩ <;> simp_all
  | spelled _ =>
    rcases a with _ | ⟨y, _ | ⟨z, a⟩⟩
    · exact .inl rfl
    · simp at hpiece
    · have hmem : '\\' ∈ hex4 x.toNat := by
        simp only [List.cons_append, List.cons.injEq] at hpiece
        simp [← hpiece.2.2]
      exact absurd rfl (ne_of_mem_hex4 hmem).1
  | plain _ hescape => cases a <;> simp_all

/-- No form is a lone backslash. -/
theorem literalChar_ne_backslash (x : Char) : literalChar x ≠ ['\\'] := by
  intro h
  have hform := form_literalChar x
  rw [h] at hform
  generalize hpiece : ['\\'] = piece at hform
  cases hform with
  | plain _ hescape => exact hescape (List.cons.inj hpiece).1.symm
  | _ => simp at hpiece

/-- A form that goes on with `u` behind its backslash is an escape by code point. -/
theorem eq_hex4_of_form {x : Char} {b : List Char} (h : literalChar x = '\\' :: 'u' :: b) :
    b = hex4 x.toNat ∧ x.toNat < 0x10000 := by
  have hform := form_literalChar x
  rw [h] at hform
  cases hform with
  | short hmem => simp [shortForms] at hmem
  | spelled hspelled =>
    have := toNat_lt_of_isSpelled hspelled
    exact ⟨rfl, by omega⟩

/-- An escape by code point stands for one character of the text and has four digits; what comes
before it and behind it belongs to the characters before and behind. -/
theorem exists_of_escape {t : String} (h : literal t = before ++ '\\' :: 'u' :: after)
    (heven : Even (endBackslashes before)) :
    ∃ (xs ys : List Char) (x : Char) (rest : List Char), t.toList = xs ++ x :: ys
      ∧ x.toNat < 0x10000 ∧ after = hex4 x.toNat ++ rest
      ∧ before ++ ['"'] = literal (String.ofList xs) ∧ '"' :: rest = literal (String.ofList ys) := by
  have hbefore : before ≠ [] := by
    rintro rfl
    simp [literal] at h
  obtain ⟨front, rfl, hcut⟩ := exists_cut_of_literal_eq hbefore h
  generalize hbehind : 'u' :: after = behind at hcut
  cases hcut with
  | @inside xs ys a b x _ hchars hform =>
    rcases eq_of_backslash_in_form hform with rfl | ⟨rfl, rfl⟩
    · cases b with
      | nil => exact absurd hform (literalChar_ne_backslash x)
      | cons d b =>
        obtain ⟨rfl, rfl⟩ := List.cons.inj hbehind
        obtain ⟨rfl, hlt⟩ := eq_hex4_of_form hform
        refine ⟨xs, ys, x, ys.flatMap literalChar ++ ['"'], hchars, hlt, rfl, ?_, ?_⟩
        · simp [literal]
        · simp [literal]
    · rw [← List.cons_append, endBackslashes_backslash, Nat.even_add_one] at heven
      exact absurd (even_endBackslashes xs) heven

/-! ## 4. Faithful and inert -/

theorem harmless_of_mem_literal {t : String} (h : c ∈ literal t) :
    isControl c = false ∧ isSeparator c = false ∧ c ≠ '<' ∧ c ≠ '>' ∧ c ≠ '&' := by
  obtain ⟨hcontrol, hspelled⟩ := inert_of_mem_literal h
  simp only [isSpelled, Bool.or_eq_false_iff, beq_eq_false_iff_ne] at hspelled
  obtain ⟨⟨⟨⟨hopen, hclose⟩, hand⟩, hseparator⟩, -⟩ := hspelled
  exact ⟨hcontrol, hseparator, hopen, hclose, hand⟩

/-- **A literal is faithful and inert.** It stands between two quotes and holds nothing that has a
meaning around it. Every quote inside has an odd number of backslashes before it and the closing one
an even number. A script reads the text that was written, stopping behind the literal, and so does a
reader of JSON; so different texts have different literals. And where `\u` begins an escape, the
four digits of one character of the text follow, with the characters before and behind on either
side. -/
theorem literal_faithful (t : String) :
    (∃ inner, literal t = '"' :: inner ++ ['"'])
      ∧ (∀ c ∈ literal t,
          isControl c = false ∧ isSeparator c = false ∧ c ≠ '<' ∧ c ≠ '>' ∧ c ≠ '&')
      ∧ (∀ before after, literal t = before ++ '"' :: after → before ≠ [] →
          (after = [] ↔ Even (endBackslashes before)))
      ∧ (∀ rest, Script.readText? (literal t ++ rest) = some (t, rest))
      ∧ literalValue? (literal t) = some t
      ∧ (∀ s, literal s = literal t → s = t)
      ∧ (∀ before after, literal t = before ++ '\\' :: 'u' :: after →
          Even (endBackslashes before) →
          ∃ (xs ys : List Char) (x : Char) (rest : List Char), t.toList = xs ++ x :: ys
            ∧ x.toNat < 0x10000 ∧ after = hex4 x.toNat ++ rest
            ∧ before ++ ['"'] = literal (String.ofList xs)
            ∧ '"' :: rest = literal (String.ofList ys)) := by
  refine ⟨⟨_, rfl⟩, fun c hc => harmless_of_mem_literal hc,
    fun before after h hbefore => eq_nil_iff_even hbefore h, Script.readText?_literal t,
    literalValue?_literal t, fun s h => ?_, fun before after h heven => exists_of_escape h heven⟩
  have hread := Script.readText?_literal s []
  rw [h, Script.readText?_literal t []] at hread
  simpa using hread.symm

/-- A backslash, a quote and a control in a row: the quote has three backslashes before it, and the
escape behind it is the control's. -/
theorem literal_faithful_row :
    literal "\\\"\x7f" = "\"\\\\\\".toList ++ '"' :: "\\u007f\"".toList
      ∧ "\"\\\\\\".toList ≠ [] ∧ ¬ Even (endBackslashes "\"\\\\\\".toList)
      ∧ literal "\\\"\x7f" = "\"\\\\\\\"".toList ++ '\\' :: 'u' :: "007f\"".toList
      ∧ Even (endBackslashes "\"\\\\\\\"".toList)
      ∧ ∃ (xs ys : List Char) (x : Char) (rest : List Char), "\\\"\x7f".toList = xs ++ x :: ys
        ∧ x.toNat < 0x10000 ∧ "007f\"".toList = hex4 x.toNat ++ rest
        ∧ "\"\\\\\\\"".toList ++ ['"'] = literal (String.ofList xs)
        ∧ '"' :: rest = literal (String.ofList ys) := by
  obtain ⟨-, -, hquotes, -, -, -, hescapes⟩ := literal_faithful "\\\"\x7f"
  have hquote : literal "\\\"\x7f" = "\"\\\\\\".toList ++ '"' :: "\\u007f\"".toList := by
    decide +kernel
  have hescape : literal "\\\"\x7f"
      = "\"\\\\\\\"".toList ++ '\\' :: 'u' :: "007f\"".toList := by
    decide +kernel
  have hbefore : "\"\\\\\\".toList ≠ [] := by decide
  have heven : Even (endBackslashes "\"\\\\\\\"".toList) := by decide +kernel
  have hafter : "\\u007f\"".toList ≠ [] := by decide
  exact ⟨hquote, hbefore, mt (hquotes _ _ hquote hbefore).2 hafter, hescape, heven,
    hescapes _ _ hescape heven⟩

end Widgetry.Component
