import Widgetry.Proofs.Component.Readability
import Widgetry.Proofs.Script.Literal

/-!
Objects of scripts whose values are texts: `{ key: value, ... }`, with gaps anywhere between the
parts. A key is a literal or a bare name, and a bare name stands for itself. A reader gives the
properties in their order, repeated keys included, and the code behind the closing brace.

The object that this library writes for a style is read as the properties of the style, in their
order, whatever comes behind it (`readObject?_chunks`). The parts are read one after another: a bare
name ends at the colon and starts unlike a literal, and a literal ends where it was ended
(`readText?_literal`), so nothing that a key or a value holds is taken for a separator.
-/

namespace Widgetry.Script

open Component (Style isBareName literal printChunks propertiesChunks propertyChunks)
open Json (isGap)

/-! ## 1. A reader of objects -/

/-- Whether a character can start a bare name. -/
def isNameStart (c : Char) : Bool :=
  c.isAlpha || c == '_' || c == '$'

/-- Whether a character can stand in a bare name. -/
def isNamePart (c : Char) : Bool :=
  isNameStart c || c.isDigit

/-- The code behind gaps. -/
def skip (cs : List Char) : List Char :=
  cs.dropWhile isGap

/-- The code behind gaps and a mark, which must be there. -/
def expect? (mark : Char) (cs : List Char) : Option (List Char) :=
  match skip cs with
  | c :: cs => if c == mark then some cs else none
  | [] => none

/-- Reads the bare name at the front of code, as far as it goes. -/
def readName? : List Char → Option (String × List Char)
  | c :: cs =>
    if isNameStart c then
      some (String.ofList (c :: cs.takeWhile isNamePart), cs.dropWhile isNamePart)
    else none
  | [] => none

/-- Reads a key: a literal or a bare name. -/
def readKey? (cs : List Char) : Option (String × List Char) :=
  (readText? cs).or (readName? cs)

/-- Reads a property. -/
def readProperty? (cs : List Char) : Option ((String × String) × List Char) := do
  let (key, cs) ← readKey? (skip cs)
  let cs ← expect? ':' cs
  let (value, cs) ← readText? (skip cs)
  return ((key, value), cs)

/-- Reads properties with commas between them up to the closing brace, at most so many. -/
def readProperties? : Nat → List Char → Option (List (String × String) × List Char)
  | 0, _ => none
  | n + 1, cs => do
    let (e, cs) ← readProperty? cs
    match expect? ',' cs with
    | some cs => (readProperties? n cs).map fun r => (e :: r.1, r.2)
    | none => (expect? '}' cs).map fun rest => ([e], rest)

/-- Reads an object: its properties in their order, and the code behind it. There are no more
properties than characters. -/
def readObject? (cs : List Char) : Option (List (String × String) × List Char) := do
  let cs ← expect? '{' cs
  match expect? '}' cs with
  | some rest => some ([], rest)
  | none => readProperties? cs.length cs

/-! ## 2. Gaps and marks -/

theorem skip_of_not_gap {c : Char} (h : isGap c = false) (cs : List Char) :
    skip (c :: cs) = c :: cs :=
  List.dropWhile_cons_of_neg (by simp [h])

@[simp] theorem skip_space (cs : List Char) : skip (' ' :: cs) = skip cs :=
  List.dropWhile_cons_of_pos (by decide)

theorem expect?_self {mark : Char} (h : isGap mark = false) (cs : List Char) :
    expect? mark (mark :: cs) = some cs := by
  simp [expect?, skip_of_not_gap h]

theorem expect?_of_ne {mark c : Char} (hgap : isGap c = false) (hne : c ≠ mark) (cs : List Char) :
    expect? mark (c :: cs) = none := by
  simp [expect?, skip_of_not_gap hgap, hne]

@[simp] theorem expect?_space (mark : Char) (cs : List Char) :
    expect? mark (' ' :: cs) = expect? mark cs := by
  rw [expect?, expect?, skip_space]

/-- Gaps in front of a property are passed over. -/
@[simp] theorem readProperty?_space (cs : List Char) :
    readProperty? (' ' :: cs) = readProperty? cs := by
  rw [readProperty?, readProperty?, skip_space]

@[simp] theorem readProperties?_space (n : Nat) (cs : List Char) :
    readProperties? n (' ' :: cs) = readProperties? n cs := by
  cases n with
  | zero => rfl
  | succ n => rw [readProperties?, readProperties?, readProperty?_space]

/-! ## 3. Keys -/

theorem exists_name_of_isBareName {s : String} (h : isBareName s = true) :
    ∃ c cs, s.toList = c :: cs ∧ isNameStart c = true ∧ ∀ d ∈ cs, isNamePart d = true := by
  rw [isBareName] at h
  split at h
  · exact absurd h (by decide)
  · rename_i c cs hchars
    simp only [Bool.and_eq_true, List.all_eq_true, Bool.not_eq_true', Char.isAlphanum,
      Bool.or_eq_true] at h
    obtain ⟨⟨hstart, hdigit⟩, hparts⟩ := h
    refine ⟨c, cs, hchars, ?_, fun d hd => ?_⟩
    · simpa [isNameStart, hdigit] using hstart
    · have hpart := hparts d hd
      simp only [isNamePart, isNameStart, Bool.or_eq_true]
      grind

/-- No gap and no quote starts a name. -/
theorem not_gap_of_isNameStart {c : Char} (h : isNameStart c = true) :
    isGap c = false ∧ c ≠ '"' := by
  refine ⟨?_, ?_⟩
  · refine Bool.eq_false_iff.2 fun hgap => ?_
    simp only [isGap, Bool.or_eq_true, beq_iff_eq] at hgap
    rcases hgap with ((rfl | rfl) | rfl) | rfl <;> exact absurd h (by decide)
  · rintro rfl
    exact absurd h (by decide)

theorem readText?_of_ne {c : Char} (h : c ≠ '"') (cs : List Char) : readText? (c :: cs) = none := by
  rw [readText?]
  rintro _ hcons
  exact h (List.cons.inj hcons).1

/-- A bare name is read as itself where it ends. -/
theorem readKey?_bareName {s : String} (h : isBareName s = true) {c : Char}
    (hc : isNamePart c = false) (rest : List Char) :
    readKey? (skip (s.toList ++ c :: rest)) = some (s, c :: rest) := by
  obtain ⟨d, ds, hchars, hstart, hparts⟩ := exists_name_of_isBareName h
  obtain ⟨hgap, hquote⟩ := not_gap_of_isNameStart hstart
  have hname : (ds ++ c :: rest).takeWhile isNamePart = ds := by
    rw [List.takeWhile_append_of_pos hparts, List.takeWhile_cons_of_neg (by simp [hc]),
      List.append_nil]
  have hbehind : (ds ++ c :: rest).dropWhile isNamePart = c :: rest := by
    rw [List.dropWhile_append_of_pos hparts, List.dropWhile_cons_of_neg (by simp [hc])]
  rw [hchars, List.cons_append, skip_of_not_gap hgap, readKey?, readText?_of_ne hquote, readName?,
    if_pos hstart, hname, hbehind, ← hchars, String.ofList_toList]
  rfl

theorem skip_literal (s : String) (rest : List Char) :
    skip (literal s ++ rest) = literal s ++ rest :=
  skip_of_not_gap (by decide) _

theorem readKey?_literal (s : String) (rest : List Char) :
    readKey? (skip (literal s ++ rest)) = some (s, rest) := by
  rw [skip_literal, readKey?, readText?_literal]
  rfl

/-! ## 4. The objects of this library -/

/-- A property is read as its key and its value, whatever comes behind it. -/
theorem readProperty?_chunks (e : String × String) (rest : List Char) :
    readProperty? (printChunks (propertyChunks e) ++ rest) = some (e, rest) := by
  obtain ⟨key, value⟩ := e
  have hcolon : ": ".toList = ':' :: [' '] := by decide
  have hkey : readKey? (skip (printChunks (propertyChunks (key, value)) ++ rest))
      = some (key, ':' :: ' ' :: (literal value ++ rest)) := by
    rw [propertyChunks]
    split
    · rename_i hbare
      simp only [Component.printChunks_code, Component.printChunks_literal,
        Component.printChunks_nil, hcolon, List.append_assoc, List.cons_append, List.nil_append]
      exact readKey?_bareName hbare (by decide) _
    · simp only [Component.printChunks_code, Component.printChunks_literal,
        Component.printChunks_nil, hcolon, List.append_assoc, List.cons_append, List.nil_append]
      exact readKey?_literal key _
  have hmark : expect? ':' (':' :: ' ' :: (literal value ++ rest))
      = some (' ' :: (literal value ++ rest)) :=
    expect?_self (by decide) _
  simp [readProperty?, hkey, hmark, skip_literal, readText?_literal]

/-- Properties are read in their order up to the closing brace. -/
theorem readProperties?_chunks {es : List (String × String)} (hes : es ≠ []) {n : Nat}
    (hn : es.length ≤ n) (rest : List Char) :
    readProperties? n (printChunks (propertiesChunks es) ++ ' ' :: '}' :: rest)
      = some (es, rest) := by
  induction es generalizing n with
  | nil => exact absurd rfl hes
  | cons e es ih =>
    obtain ⟨n, rfl⟩ : ∃ m, n = m + 1 :=
      Nat.exists_eq_succ_of_ne_zero (by rw [List.length_cons] at hn; omega)
    rw [readProperties?]
    cases es with
    | nil =>
      have hcomma : expect? ',' ('}' :: rest) = none := expect?_of_ne (by decide) (by decide) rest
      have hbrace : expect? '}' ('}' :: rest) = some rest := expect?_self (by decide) rest
      simp [propertiesChunks, readProperty?_chunks, hcomma, hbrace]
    | cons f fs =>
      have hrest := ih (List.cons_ne_nil _ _) (Nat.le_of_succ_le_succ hn)
      have hcomma (cs : List Char) : expect? ',' (',' :: ' ' :: cs) = some (' ' :: cs) :=
        expect?_self (by decide) _
      rw [show propertiesChunks (e :: f :: fs)
          = propertyChunks e ++ .code ", " :: propertiesChunks (f :: fs) from rfl]
      simp [readProperty?_chunks, hcomma, hrest]

/-- Where properties can be read the object is not closed. -/
theorem expect?_brace_of_readProperties? {n : Nat} {cs : List Char}
    {r : List (String × String) × List Char} (h : readProperties? n cs = some r) :
    expect? '}' cs = none := by
  have hkey (ds : List Char) : readKey? ('}' :: ds) = none := by
    rw [readKey?, readText?_of_ne (by decide), readName?, if_neg (by decide)]
    rfl
  cases n with
  | zero => exact absurd h (by simp [readProperties?])
  | succ n =>
    rw [expect?]
    split
    · rename_i c ds hskip
      by_cases hc : c = '}'
      · rw [hc] at hskip
        simp [readProperties?, readProperty?, hskip, hkey] at h
      · simp [hc]
    · rfl

/-- Every property has at least the blank behind its colon. -/
theorem length_le_length_chunks (es : List (String × String)) :
    es.length ≤ (printChunks (propertiesChunks es)).length := by
  have hproperty (e : String × String) : 1 ≤ (printChunks (propertyChunks e)).length := by
    have hcolon : ": ".toList.length = 2 := by decide
    rw [propertyChunks]
    split <;>
      simp only [Component.printChunks_code, Component.printChunks_literal, List.length_append,
        hcolon] <;> omega
  induction es with
  | nil => exact Nat.zero_le _
  | cons e es ih =>
    cases es with
    | nil => exact hproperty e
    | cons f fs =>
      have he := hproperty e
      simp only [propertiesChunks, Component.printChunks_append, Component.printChunks_code,
        List.length_append, List.length_cons] at ih ⊢
      omega

/-- **The object of a style is read as its properties in their order**, and reading stops behind
it. -/
theorem readObject?_chunks (s : Style) (rest : List Char) :
    readObject? (printChunks s.chunks ++ rest) = some (s.entries, rest) := by
  obtain ⟨es⟩ := s
  have hopen (cs : List Char) : expect? '{' ('{' :: cs) = some cs := expect?_self (by decide) cs
  by_cases hes : es = []
  · have hclose : expect? '}' ('}' :: rest) = some rest := expect?_self (by decide) rest
    simp [hes, Style.chunks, readObject?, hopen, hclose]
  · have hcode : printChunks (Style.chunks ⟨es⟩) ++ rest
        = '{' :: ' ' :: (printChunks (propertiesChunks es) ++ ' ' :: '}' :: rest) := by
      simp [hes, Style.chunks]
    have hlength : es.length
        ≤ (' ' :: (printChunks (propertiesChunks es) ++ ' ' :: '}' :: rest)).length := by
      have hchunks := length_le_length_chunks es
      rw [List.length_cons, List.length_append]
      omega
    have hread := readProperties?_chunks hes hlength rest
    rw [← readProperties?_space] at hread
    rw [hcode, readObject?, hopen, Option.bind_eq_bind, Option.bind_some,
      expect?_brace_of_readProperties? hread, hread]

/-- Gaps are free, names may be quoted or not, and what a text holds is no mark. -/
example : readObject? r#"{a:"}" ,
 "b c" : ", d: \""};"#.toList
    = some ([("a", r"}"), ("b c", ", d: \"")], [';']) := by
  decide +kernel

end Widgetry.Script
