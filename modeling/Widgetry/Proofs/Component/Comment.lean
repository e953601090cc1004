import Widgetry.Component.Literal
import Widgetry.Proofs.Text.Trimming

/-!
Text in comments. Whatever a text holds, its comment has neither controls nor separators, so it
stays on one line (`inline_of_mem_comment`), and it has none of the sequences that are special
inside a script element (`not_infix_comment`). A special sequence begins with an angle bracket, and
what comes behind an angle bracket in a comment is what came behind it in the text, unless that was
special.
-/

namespace Widgetry.Component

open Text (isControl isSeparator mem_of_mem_trim)

/-! ## 1. One line -/

theorem mem_of_mem_defuse {c : Char} {cs : List Char} (h : c ∈ defuse cs) : c ∈ cs ∨ c = '\\' := by
  fun_induction defuse cs with
  | case1 rest ih =>
    simp only [List.mem_cons] at h ⊢
    rcases h with h | h | h | h
    · exact .inl (.inl h)
    · exact .inr h
    · exact .inl (.inr (.inl h))
    · exact (ih h).imp_left fun h => .inr (.inr h)
  | case2 rest ih =>
    simp only [List.mem_cons] at h ⊢
    rcases h with h | h | h | h | h | h
    · exact .inl (.inl h)
    · exact .inr h
    · exact .inl (.inr (.inl h))
    · exact .inl (.inr (.inr (.inl h)))
    · exact .inl (.inr (.inr (.inl h)))
    · exact (ih h).imp_left fun h => .inr (.inr (.inr (.inr h)))
  | case3 d rest _ _ ih =>
    rcases List.mem_cons.1 h with rfl | h
    · exact .inl List.mem_cons_self
    · exact (ih h).imp_left (List.mem_cons_of_mem d)
  | case4 => exact absurd h List.not_mem_nil

/-- The characters of a comment. -/
theorem inline_of_mem_comment {s : String} {c : Char} (h : c ∈ comment s) :
    isControl c = false ∧ isSeparator c = false := by
  rcases mem_of_mem_defuse h with h | rfl
  · obtain ⟨d, -, rfl⟩ := List.mem_map.1 (mem_of_mem_trim h)
    rw [flatten]
    split
    · decide
    · rename_i hd
      simpa using hd
  · decide

/-! ## 2. Special sequences -/

/-- The sequences that are special inside a script element. -/
def specials : List (List Char) :=
  [['<', '/'], ['<', '!', '-', '-']]

theorem prefix_of_prefix_append_cons {α : Type} {n a b : List α} {c : α} (hc : c ∉ n)
    (h : n <+: a ++ c :: b) : n <+: a := by
  induction a generalizing n with
  | nil =>
    cases n with
    | nil => exact List.nil_prefix
    | cons d n =>
      obtain ⟨rfl, -⟩ := List.cons_prefix_cons.1 h
      exact absurd List.mem_cons_self hc
  | cons d a ih =>
    cases n with
    | nil => exact List.nil_prefix
    | cons e n =>
      obtain ⟨rfl, hrest⟩ := List.cons_prefix_cons.1 h
      exact List.cons_prefix_cons.2 ⟨rfl, ih (fun hn => hc (List.mem_cons_of_mem _ hn)) hrest⟩

/-- A character that a sequence does not have parts the places where it can be. -/
theorem infix_or_infix_of_append_cons {α : Type} {n a b : List α} {c : α} (hc : c ∉ n)
    (h : n <:+: a ++ c :: b) : n <:+: a ∨ n <:+: b := by
  induction a with
  | nil =>
    rcases List.infix_cons_iff.1 h with h | h
    · exact .inl (prefix_of_prefix_append_cons (a := []) hc h).isInfix
    · exact .inr h
  | cons d a ih =>
    rcases List.infix_cons_iff.1 h with h | h
    · exact .inl (prefix_of_prefix_append_cons (a := d :: a) hc h).isInfix
    · exact (ih h).imp_left fun h => List.infix_cons h

/-- Every special sequence begins with an angle bracket, and has no backslash. -/
theorem exists_of_mem_specials {n : List Char} (h : n ∈ specials) :
    (∃ cs, n = '<' :: cs) ∧ '\\' ∉ n := by
  simp only [specials, List.mem_cons, List.not_mem_nil, or_false] at h
  rcases h with rfl | rfl
  · exact ⟨⟨_, rfl⟩, by decide⟩
  · exact ⟨⟨_, rfl⟩, by decide⟩

/-- A special sequence is not in what has no angle bracket. -/
theorem not_infix_of_not_mem {n cs : List Char} (hn : n ∈ specials) (h : '<' ∉ cs) :
    ¬n <:+: cs := by
  intro hmem
  obtain ⟨⟨ns, rfl⟩, -⟩ := exists_of_mem_specials hn
  exact h (hmem.subset List.mem_cons_self)

/-- Behind a character that does not begin a special sequence there is one only if it was there
before. -/
theorem infix_of_infix_cons {n cs : List Char} {c : Char} (hn : n ∈ specials) (hc : c ≠ '<')
    (h : n <:+: c :: cs) : n <:+: cs := by
  obtain ⟨⟨ns, rfl⟩, -⟩ := exists_of_mem_specials hn
  rcases List.infix_cons_iff.1 h with h | h
  · exact absurd (List.cons_prefix_cons.1 h).1.symm hc
  · exact h

theorem defuse_cons_of_ne {c : Char} (hc : c ≠ '<') (cs : List Char) :
    defuse (c :: cs) = c :: defuse cs := by
  rw [defuse] <;> simp [hc]

/-- What a defused text begins with, if this is no angle bracket, the text begins with. -/
theorem exists_of_defuse_eq_cons {c : Char} {cs ds : List Char} (hc : c ≠ '<')
    (h : defuse cs = c :: ds) : ∃ rest, cs = c :: rest ∧ defuse rest = ds := by
  cases cs with
  | nil => simp [defuse] at h
  | cons d rest =>
    have hhead : (defuse (d :: rest)).head? = some d := by
      unfold defuse
      split <;> simp_all
    obtain rfl : d = c := by simpa [h] using hhead.symm
    rw [defuse_cons_of_ne hc] at h
    exact ⟨rest, rfl, (List.cons.inj h).2⟩

theorem not_infix_defuse {n : List Char} (hn : n ∈ specials) (cs : List Char) :
    ¬n <:+: defuse cs := by
  have hbackslash := (exists_of_mem_specials hn).2
  fun_induction defuse cs with
  | case1 rest ih =>
    intro h
    -- no sequence has a backslash in it, so it would lie on one side of the one that was put in
    rcases infix_or_infix_of_append_cons (a := ['<']) hbackslash h with h | h
    · exact absurd h ((by decide : ∀ n ∈ specials, ¬n <:+: ['<']) n hn)
    · exact ih (infix_of_infix_cons hn (by decide) h)
  | case2 rest ih =>
    intro h
    rcases infix_or_infix_of_append_cons (a := ['<']) hbackslash h with h | h
    · exact absurd h ((by decide : ∀ n ∈ specials, ¬n <:+: ['<']) n hn)
    · exact ih <| infix_of_infix_cons hn (by decide) <| infix_of_infix_cons hn (by decide) <|
        infix_of_infix_cons hn (by decide) h
  | case3 c rest hclose hcomment ih =>
    intro h
    rcases List.infix_cons_iff.1 h with ⟨ds, h⟩ | h
    · -- the sequence begins here, so the text goes on with the rest of it
      simp only [specials, List.mem_cons, List.not_mem_nil, or_false] at hn
      rcases hn with rfl | rfl
      · obtain ⟨rfl, hrest⟩ := List.cons.inj h
        obtain ⟨rest', rfl, -⟩ := exists_of_defuse_eq_cons (by decide) hrest.symm
        exact hclose rest' rfl rfl
      · obtain ⟨rfl, hrest⟩ := List.cons.inj h
        obtain ⟨rest₁, rfl, h₁⟩ := exists_of_defuse_eq_cons (by decide) hrest.symm
        obtain ⟨rest₂, rfl, h₂⟩ := exists_of_defuse_eq_cons (by decide) h₁
        obtain ⟨rest₃, rfl, -⟩ := exists_of_defuse_eq_cons (by decide) h₂
        exact hcomment rest₃ rfl rfl
    · exact ih h
  | case4 => exact not_infix_of_not_mem hn List.not_mem_nil

/-- No special sequence is left in a comment. -/
theorem not_infix_comment {n : List Char} (hn : n ∈ specials) (s : String) : ¬n <:+: comment s :=
  not_infix_defuse hn _

end Widgetry.Component
