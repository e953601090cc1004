import Mathlib.Data.List.TakeWhile
import Widgetry.Text.Blank

/-!
Trimming. A text is what trimming leaves of it, between white space (`exists_trim`), and white space
that is put around it makes no difference to what is left (`trim_append_of_blank`). The right end of
a text is the left end of the text read backwards, so each fact is shown at the left one.

Keys of the cache, titles, ids, prompts and replies are all trimmed, with the same idea of what
white space is, and what is shown of them with the help of this module is always one of two things:
that two texts which differ in white space at their ends are treated alike, or that something was
blank.
-/

namespace Widgetry.Text

variable {before after cs : List Char} {c : Char}

/-! ## 1. One end -/

theorem trimRight_eq (cs : List Char) : trimRight cs = (trimLeft cs.reverse).reverse := rfl

theorem mem_of_mem_trimLeft (h : c ∈ trimLeft cs) : c ∈ cs :=
  (List.dropWhile_sublist isBlank).subset h

theorem mem_of_mem_trimRight (h : c ∈ trimRight cs) : c ∈ cs :=
  List.mem_reverse.1 (mem_of_mem_trimLeft (List.mem_reverse.1 h))

theorem trimLeft_append (hc : isBlank c = false) (before cs : List Char) :
    trimLeft (before ++ c :: cs) = trimLeft before ++ c :: cs := by
  rw [trimLeft, trimLeft, List.dropWhile_append, List.dropWhile_cons_of_neg (by simp [hc])]
  split
  · rename_i hempty
    rw [List.isEmpty_iff.1 hempty, List.nil_append]
  · rfl

theorem trimRight_append (hc : isBlank c = false) (cs after : List Char) :
    trimRight (cs ++ c :: after) = cs ++ c :: trimRight after := by
  rw [trimRight_eq, List.reverse_append, List.reverse_cons, List.append_assoc,
    List.singleton_append, trimLeft_append hc, List.reverse_append, List.reverse_cons,
    List.reverse_reverse, List.append_assoc, List.singleton_append, ← trimRight_eq]

theorem trimLeft_append_of_blank (hbefore : ∀ c ∈ before, isBlank c = true) (cs : List Char) :
    trimLeft (before ++ cs) = trimLeft cs :=
  List.dropWhile_append_of_pos hbefore

theorem trimRight_append_of_blank (hafter : ∀ c ∈ after, isBlank c = true) (cs : List Char) :
    trimRight (cs ++ after) = trimRight cs := by
  rw [trimRight_eq, List.reverse_append,
    trimLeft_append_of_blank fun c hc => hafter c (List.mem_reverse.1 hc), ← trimRight_eq]

theorem exists_trimLeft (cs : List Char) :
    ∃ before, (∀ c ∈ before, isBlank c = true) ∧ cs = before ++ trimLeft cs :=
  ⟨cs.takeWhile isBlank, fun _ hc => List.mem_takeWhile_imp hc,
    List.takeWhile_append_dropWhile.symm⟩

theorem exists_trimRight (cs : List Char) :
    ∃ after, (∀ c ∈ after, isBlank c = true) ∧ cs = trimRight cs ++ after := by
  obtain ⟨before, hbefore, heq⟩ := exists_trimLeft cs.reverse
  refine ⟨before.reverse, fun c hc => hbefore c (List.mem_reverse.1 hc), ?_⟩
  rw [trimRight_eq, ← List.reverse_append, ← heq, List.reverse_reverse]

/-! ## 2. Both ends -/

theorem mem_of_mem_trim (h : c ∈ trim cs) : c ∈ cs :=
  mem_of_mem_trimLeft (mem_of_mem_trimRight h)

/-- A text with no white space at its ends is trimmed already. -/
theorem trim_of_ends (hstart : ∀ c, cs.head? = some c → isBlank c = false)
    (hending : ∀ c, cs.getLast? = some c → isBlank c = false) : trim cs = cs := by
  have hreverse : ∀ c, cs.reverse.head? = some c → isBlank c = false := by
    simpa only [List.head?_reverse] using hending
  rw [trim, trimLeft_of_head? hstart, trimRight_eq, trimLeft_of_head? hreverse,
    List.reverse_reverse]

/-- A text without the white space at its ends, and what was there. -/
theorem exists_trim (cs : List Char) :
    ∃ before after, (∀ c ∈ before, isBlank c = true) ∧ (∀ c ∈ after, isBlank c = true)
      ∧ cs = before ++ trim cs ++ after := by
  obtain ⟨before, hbefore, hleft⟩ := exists_trimLeft cs
  obtain ⟨after, hafter, hright⟩ := exists_trimRight (trimLeft cs)
  refine ⟨before, after, hbefore, hafter, ?_⟩
  rw [trim, List.append_assoc, ← hright, ← hleft]

/-- White space at the ends of a text makes no difference to what is left of it. -/
theorem trim_append_of_blank (hbefore : ∀ c ∈ before, isBlank c = true)
    (hafter : ∀ c ∈ after, isBlank c = true) (cs : List Char) :
    trim (before ++ cs ++ after) = trim cs := by
  rw [trim, List.append_assoc, trimLeft_append_of_blank hbefore, trim]
  by_cases hblank : ∀ c ∈ cs, isBlank c = true
  · have hall : ∀ c ∈ cs ++ after, isBlank c = true :=
      fun c hc => (List.mem_append.1 hc).elim (hblank c) (hafter c)
    rw [trimLeft_eq_nil_iff.2 hall, trimLeft_eq_nil_iff.2 hblank]
  · have hne : trimLeft cs ≠ [] := mt trimLeft_eq_nil_iff.1 hblank
    have happend : trimLeft (cs ++ after) = trimLeft cs ++ after := by
      unfold trimLeft at hne ⊢
      rw [List.dropWhile_append, if_neg (by simpa using hne)]
    rw [happend, trimRight_append_of_blank hafter]

end Widgetry.Text
