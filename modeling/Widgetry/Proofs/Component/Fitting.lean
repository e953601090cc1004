import Widgetry.Proofs.Component.Comment

/-!
Texts that fit into a comment on one line of a script: they have no control or separator, none of
the sequences that are special inside a script element, and no white space at their ends. The
comment of a text is such a text, and a text is its own comment exactly if it is one
(`comment_fits`). So writing a comment again changes nothing.

Of the three steps to a comment only the first and the second can drop a character or make a blank.
The last one, defusing, keeps the first and the last character, since it only writes backslashes
behind angle brackets (`head?_defuse`, `getLast?_defuse`). It breaks up both sequences in one pass.
This is the same as two passes one after the other: what the first of them writes is never the start
of the other sequence (`defuse_eq_replaced`).
-/

namespace Widgetry.Component

open Text (isBlank isControl isSeparator trim)

variable {cs rest : List Char} {c : Char}

/-! ## 1. What defusing keeps -/

/-- What is put in comes behind an angle bracket, so the first character stays. -/
theorem head?_defuse (cs : List Char) : (defuse cs).head? = cs.head? := by
  fun_cases defuse cs <;> rfl

/-- The last character stays too. -/
theorem getLast?_defuse (cs : List Char) : (defuse cs).getLast? = cs.getLast? := by
  fun_induction defuse cs with
  | case1 rest ih => simp only [List.getLast?_cons, ih, Option.getD_some]
  | case2 rest ih => simp only [List.getLast?_cons, ih, Option.getD_some]
  | case3 c rest _ _ ih => rw [List.getLast?_cons, List.getLast?_cons, ih]
  | case4 => rfl

theorem defuse_eq_nil_iff : defuse cs = [] ↔ cs = [] := by
  rw [← List.head?_eq_none_iff, head?_defuse, List.head?_eq_none_iff]

/-- Where no special sequence is, defusing changes nothing. -/
theorem defuse_of_not_infix (h : ∀ n ∈ specials, ¬ n <:+: cs) : defuse cs = cs := by
  have hclose : ['<', '/'] ∈ specials := by decide
  have hcomment : ['<', '!', '-', '-'] ∈ specials := by decide
  fun_induction defuse cs with
  | case1 rest ih => exact absurd (List.prefix_append ['<', '/'] rest).isInfix (h _ hclose)
  | case2 rest ih =>
    exact absurd (List.prefix_append ['<', '!', '-', '-'] rest).isInfix (h _ hcomment)
  | case3 c rest _ _ ih =>
    rw [ih fun n hn hmem => h n hn (List.infix_cons hmem)]
  | case4 => rfl

/-! ## 2. One pass for two -/

/-- A text with every occurrence of a sequence replaced, from left to right; the number says how
many characters of an occurrence are still to be passed over. -/
@[simp] def replacedFrom (old new : List Char) : Nat → List Char → List Char
  | _, [] => []
  | n + 1, _ :: cs => replacedFrom old new n cs
  | 0, c :: cs =>
    if old.isPrefixOf (c :: cs) then new ++ replacedFrom old new (old.length - 1) cs
    else c :: replacedFrom old new 0 cs

/-- A text with every occurrence of a sequence replaced by another one. -/
def replaced (old new cs : List Char) : List Char :=
  replacedFrom old new 0 cs

/-- The text without the sequence that ends an element. -/
def withoutClosing : List Char → List Char :=
  replaced ['<', '/'] ['<', '\\', '/']

/-- The text without the sequence that opens a comment of the page. -/
def withoutOpening : List Char → List Char :=
  replaced ['<', '!', '-', '-'] ['<', '\\', '!', '-', '-']

/-- Where the sequence does not begin a character stays. -/
theorem replaced_cons {old : List Char} (h : ¬ old <+: c :: rest) (new : List Char) :
    replaced old new (c :: rest) = c :: replaced old new rest := by
  have hprefix : old.isPrefixOf (c :: rest) = false := by
    rw [← Bool.not_eq_true, List.isPrefixOf_iff_prefix]
    exact h
  simp [replaced, hprefix]

/-- Characters of an occurrence are passed over. -/
theorem replacedFrom_append (old new passed rest : List Char) :
    replacedFrom old new passed.length (passed ++ rest) = replaced old new rest := by
  induction passed with
  | nil => rfl
  | cons d passed ih => exact ih

/-- An occurrence is replaced. -/
theorem replaced_append {old : List Char} (h : old ≠ []) (new rest : List Char) :
    replaced old new (old ++ rest) = new ++ replaced old new rest := by
  obtain ⟨c, passed, rfl⟩ := List.exists_cons_of_ne_nil h
  have hprefix : (c :: passed).isPrefixOf (c :: (passed ++ rest)) = true :=
    List.isPrefixOf_iff_prefix.2 (List.prefix_append (c :: passed) rest)
  have hpassed := replacedFrom_append (c :: passed) new passed rest
  simp [replaced, hprefix, hpassed]

theorem withoutClosing_cons (h : ¬ ['<', '/'] <+: c :: rest) :
    withoutClosing (c :: rest) = c :: withoutClosing rest :=
  replaced_cons h _

theorem withoutOpening_cons (h : ¬ ['<', '!', '-', '-'] <+: c :: rest) :
    withoutOpening (c :: rest) = c :: withoutOpening rest :=
  replaced_cons h _

theorem withoutClosing_closing (rest : List Char) :
    withoutClosing ('<' :: '/' :: rest) = '<' :: '\\' :: '/' :: withoutClosing rest :=
  replaced_append (List.cons_ne_nil _ _) _ rest

theorem withoutOpening_opening (rest : List Char) :
    withoutOpening ('<' :: '!' :: '-' :: '-' :: rest)
      = '<' :: '\\' :: '!' :: '-' :: '-' :: withoutOpening rest :=
  replaced_append (List.cons_ne_nil _ _) _ rest

/-- What the first pass writes begins with an angle bracket, so it is no part of what comes behind
one in the other sequence. -/
theorem prefix_of_prefix_withoutClosing {n : List Char} (hn : '<' ∉ n)
    (h : n <+: withoutClosing cs) : n <+: cs := by
  induction n generalizing cs with
  | nil => exact List.nil_prefix
  | cons d n ih =>
    obtain ⟨hd, hn⟩ : '<' ≠ d ∧ '<' ∉ n := by simpa using hn
    cases cs with
    | nil => exact h
    | cons c rest =>
      by_cases hclose : ['<', '/'] <+: c :: rest
      · obtain ⟨tail, htail⟩ := hclose
        rw [← htail, List.cons_append, List.singleton_append, withoutClosing_closing] at h
        exact absurd (List.cons_prefix_cons.1 h).1.symm hd
      · rw [withoutClosing_cons hclose] at h
        obtain ⟨rfl, hrest⟩ := List.cons_prefix_cons.1 h
        exact List.cons_prefix_cons.2 ⟨rfl, ih hn hrest⟩

/-- **Defusing is two replacements, one after the other.** -/
theorem defuse_eq_replaced (cs : List Char) :
    defuse cs = withoutOpening (withoutClosing cs) := by
  fun_induction defuse cs with
  | case1 rest ih =>
    rw [withoutClosing_closing, withoutOpening_cons (by simp [List.cons_prefix_cons]),
      withoutOpening_cons (by simp [List.cons_prefix_cons]),
      withoutOpening_cons (by simp [List.cons_prefix_cons]), ih]
  | case2 rest ih =>
    rw [withoutClosing_cons (by simp [List.cons_prefix_cons]),
      withoutClosing_cons (by simp [List.cons_prefix_cons]),
      withoutClosing_cons (by simp [List.cons_prefix_cons]),
      withoutClosing_cons (by simp [List.cons_prefix_cons]), withoutOpening_opening, ih]
  | case3 c rest hclose hcomment ih =>
    have hfirst : ¬ ['<', '/'] <+: c :: rest := by
      rintro ⟨tail, htail⟩
      obtain ⟨rfl, hrest⟩ := List.cons.inj htail
      exact hclose tail rfl hrest.symm
    -- the first replacement does not make the beginning of the second sequence
    have hsecond : ¬ ['<', '!', '-', '-'] <+: c :: withoutClosing rest := by
      intro h
      obtain ⟨rfl, hrest⟩ := List.cons_prefix_cons.1 h
      have hmarks : '<' ∉ ['!', '-', '-'] := by decide
      obtain ⟨tail, htail⟩ := prefix_of_prefix_withoutClosing hmarks hrest
      exact hcomment tail rfl htail.symm
    rw [withoutClosing_cons hfirst, withoutOpening_cons hsecond, ih]
  | case4 => rfl

/-! ## 3. Texts that fit -/

/-- A text that can stand in a comment on one line of a script as it is. -/
structure FitsComment (cs : List Char) : Prop where
  inline : ∀ c ∈ cs, isControl c = false ∧ isSeparator c = false
  closing : ¬ ['<', '/'] <:+: cs
  opening : ¬ ['<', '!', '-', '-'] <:+: cs
  start : ∀ c, cs.head? = some c → isBlank c = false
  ending : ∀ c, cs.getLast? = some c → isBlank c = false

/-- What is written fits. -/
theorem fitsComment_comment (s : String) : FitsComment (comment s) where
  inline _ hc := inline_of_mem_comment hc
  closing := not_infix_comment (by decide) s
  opening := not_infix_comment (by decide) s
  start c hc := by
    rw [comment, head?_defuse] at hc
    exact Text.isBlank_of_head?_trim hc
  ending c hc := by
    rw [comment, getLast?_defuse] at hc
    exact Text.isBlank_of_getLast?_trim hc

theorem flatten_of_inline (h : isControl c = false ∧ isSeparator c = false) : flatten c = c := by
  rw [flatten, h.1, h.2]
  rfl

/-- None of the three steps changes a text that fits. -/
theorem FitsComment.comment_eq {s : String} (h : FitsComment s.toList) : comment s = s.toList := by
  have hflat : s.toList.map flatten = s.toList.map id :=
    List.map_congr_left fun c hc => flatten_of_inline (h.inline c hc)
  have hspecials : ∀ n ∈ specials, ¬ n <:+: s.toList := by
    intro n hn
    simp only [specials, List.mem_cons, List.not_mem_nil, or_false] at hn
    rcases hn with rfl | rfl
    · exact h.closing
    · exact h.opening
  rw [comment, hflat, List.map_id, Text.trim_of_ends h.start h.ending,
    defuse_of_not_infix hspecials]

/-- A character is blank once it is flattened if it is white space, a control or a separator. -/
theorem isBlank_flatten (c : Char) :
    isBlank (flatten c) = true ↔ isBlank c = true ∨ isControl c = true ∨ isSeparator c = true := by
  rw [flatten]
  cases hcontrol : isControl c <;> cases hseparator : isSeparator c <;> simp
  all_goals decide

/-- Nothing is left of a text exactly if there is nothing in it to be seen. -/
theorem comment_eq_nil_iff {s : String} : comment s = []
    ↔ ∀ c ∈ s.toList, isBlank c = true ∨ isControl c = true ∨ isSeparator c = true := by
  rw [comment, defuse_eq_nil_iff, Text.trim_eq_nil_iff, List.forall_mem_map]
  simp only [isBlank_flatten]

/-- **The comment of a text fits on its line, and nothing is written differently that fits
already.** Nothing is left of a text exactly if it holds nothing but white space, controls and
separators; and what was written once is written the same again. -/
theorem comment_fits (s : String) :
    FitsComment (comment s)
      ∧ (comment s = []
        ↔ ∀ c ∈ s.toList, isBlank c = true ∨ isControl c = true ∨ isSeparator c = true)
      ∧ comment (String.ofList (comment s)) = comment s
      ∧ (comment s = s.toList ↔ FitsComment s.toList) := by
  refine ⟨fitsComment_comment s, comment_eq_nil_iff, ?_, ?_⟩
  · have hfits : FitsComment (String.ofList (comment s)).toList := by
      rw [String.toList_ofList]
      exact fitsComment_comment s
    rw [hfits.comment_eq, String.toList_ofList]
  · constructor
    · intro h
      exact h ▸ fitsComment_comment s
    · exact FitsComment.comment_eq

/-- Sequences that meet, and one that would come about at the seam of another. -/
example : comment "\t<</<!--<!-</\u2028 \u0085" = "<<\\/<\\!--<!-<\\/".toList := by
  decide +kernel

end Widgetry.Component
