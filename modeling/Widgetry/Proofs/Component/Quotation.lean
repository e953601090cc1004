import Widgetry.Component.Source
import Widgetry.Proofs.Component.Literal

/-!
Quoted literals in code, as a reader meets them who goes through the code from left to right: a
single or double quote opens a literal, the same quote closes it, and a backslash takes the
character after it out of consideration. `hollow` is the code with every literal emptied, and
`literalsEnd` says that every literal ends, on the line on which it starts.

The main statement is about chunks. When every chunk of a source ends its own literals, hollowing
the printed source is hollowing it chunk by chunk (`hollow_printChunks`), and a chunk that is a
literal leaves two quotes, whatever text it holds (`hollow_literal`). So the hollowed source does
not see the texts of a document.
-/

namespace Widgetry.Component

/-! ## 1. A reader of literals -/

/-- Whether a character opens a literal. -/
def isQuote (c : Char) : Bool :=
  c == '"' || c == '\''

/-- Whether a character ends a line. -/
def isLineBreak (c : Char) : Bool :=
  c == '\n' || c == '\r' || Text.isSeparator c

/-- Where a reader stands: outside of literals, in a literal with its quote, or behind a backslash
in such a literal. -/
inductive Mode where
  | code
  | quoted (quote : Char)
  | escaped (quote : Char)
  deriving Repr, DecidableEq

namespace Mode

/-- Whether a reader stands outside of literals. -/
def isCode : Mode → Bool
  | code => true
  | _ => false

/-- Where a reader stands after one more character. -/
def next : Mode → Char → Mode
  | code, c => if isQuote c then quoted c else code
  | quoted q, c => if c == '\\' then escaped q else if c == q then code else quoted q
  | escaped q, _ => quoted q

end Mode

/-- Code with every literal replaced by an empty one: what stands outside of literals stays, and of
a literal only its quotes. -/
def hollow : Mode → List Char → List Char
  | _, [] => []
  | m, c :: cs =>
    if m.isCode || (m.next c).isCode then c :: hollow (m.next c) cs else hollow (m.next c) cs

/-- Whether every literal ends, on the line on which it starts. -/
def literalsEnd : Mode → List Char → Bool
  | m, [] => m.isCode
  | m, c :: cs => (m.isCode || !isLineBreak c) && literalsEnd (m.next c) cs

/-! ## 2. Code that ends its own literals -/

theorem Mode.eq_code {m : Mode} (h : m.isCode = true) : m = .code := by
  cases m <;> simp_all [isCode]

/-- Behind code that ends its literals a reader starts anew. -/
theorem literalsEnd_append {m : Mode} {a : List Char} (h : literalsEnd m a = true)
    (b : List Char) : literalsEnd m (a ++ b) = literalsEnd .code b := by
  induction a generalizing m with
  | nil => rw [Mode.eq_code h]; rfl
  | cons c cs ih =>
    simp only [literalsEnd, Bool.and_eq_true] at h
    simp [literalsEnd, h.1, ih h.2]

/-- Code whose literals end is blanked piece by piece. -/
theorem hollow_append {m : Mode} {a : List Char} (h : literalsEnd m a = true)
    (b : List Char) : hollow m (a ++ b) = hollow m a ++ hollow .code b := by
  induction a generalizing m with
  | nil => rw [Mode.eq_code h]; rfl
  | cons c cs ih =>
    simp only [literalsEnd, Bool.and_eq_true] at h
    simp only [List.cons_append, hollow, ih h.2]
    split <;> rfl

/-- Code without quotes has no literals to end. -/
theorem literalsEnd_of_plain {cs : List Char} (h : ∀ c ∈ cs, isQuote c = false) :
    literalsEnd .code cs = true := by
  induction cs with
  | nil => rfl
  | cons c cs ih =>
    have hc : isQuote c = false := h c List.mem_cons_self
    simp [literalsEnd, Mode.next, Mode.isCode, hc,
      ih fun d hd => h d (List.mem_cons_of_mem _ hd)]

/-- Code without quotes is not changed by blanking. -/
theorem hollow_of_plain {cs : List Char} (h : ∀ c ∈ cs, isQuote c = false) :
    hollow .code cs = cs := by
  induction cs with
  | nil => rfl
  | cons c cs ih =>
    have hc : isQuote c = false := h c List.mem_cons_self
    simp [hollow, Mode.next, Mode.isCode, hc, ih fun d hd => h d (List.mem_cons_of_mem _ hd)]

/-! ## 3. A literal leaves its quotes

Inside of a double-quoted literal the characters of a text are passed over: `Silent` says so of a
piece of the literal, and the pieces are the forms of the characters. -/

/-- Inside of a double-quoted literal the piece is passed over, and the literal goes on. -/
def Silent (piece : List Char) : Prop :=
  ∀ rest, literalsEnd (.quoted '"') (piece ++ rest) = literalsEnd (.quoted '"') rest
    ∧ hollow (.quoted '"') (piece ++ rest) = hollow (.quoted '"') rest

theorem silent_nil : Silent [] := fun _ => ⟨rfl, rfl⟩

/-- What is silent inside a literal is so behind other silent text. -/
theorem Silent.append {a b : List Char} (ha : Silent a) (hb : Silent b) : Silent (a ++ b) := by
  intro rest
  rw [List.append_assoc]
  exact ⟨(ha _).1.trans (hb rest).1, (ha _).2.trans (hb rest).2⟩

/-- A character that neither closes the literal nor escapes nor ends the line. -/
theorem silent_char {c : Char} (hq : c ≠ '"') (he : c ≠ '\\') (hl : isLineBreak c = false) :
    Silent [c] := by
  intro rest
  simp [literalsEnd, hollow, Mode.next, Mode.isCode, hq, he, hl]

/-- An escape is silent, unless it escapes a line break. -/
theorem silent_escape {c : Char} (hl : isLineBreak c = false) : Silent ['\\', c] := by
  intro rest
  simp [literalsEnd, hollow, Mode.next, Mode.isCode, hl, show isLineBreak '\\' = false by decide]

theorem silent_hexDigit {n : Nat} (h : n < 16) : Silent [Text.hexDigit n] := by
  have facts : ∀ k < 16, Text.hexDigit k ≠ '"' ∧ Text.hexDigit k ≠ '\\'
      ∧ isLineBreak (Text.hexDigit k) = false := by decide
  obtain ⟨hq, he, hl⟩ := facts n h
  exact silent_char hq he hl

/-- Four digits are silent. -/
theorem silent_hex4 (n : Nat) : Silent (Text.hex4 n) := by
  have digit (k : Nat) : Silent [Text.hexDigit (k % 16)] :=
    silent_hexDigit (Nat.mod_lt k (by decide))
  exact (digit (n / 4096)).append <| (digit (n / 256)).append <|
    (digit (n / 16)).append <| digit n

/-- Every character is silent in the form it has in a literal, quotes and line breaks too. -/
theorem silent_literalChar (c : Char) : Silent (literalChar c) := by
  have hform := form_literalChar c
  generalize literalChar c = form at hform ⊢
  cases hform with
  | @short e h =>
    simp only [shortForms, List.mem_cons, Prod.mk.injEq, List.not_mem_nil, or_false] at h
    rcases h with ⟨-, rfl⟩ | ⟨-, rfl⟩ | ⟨-, rfl⟩ | ⟨-, rfl⟩ | ⟨-, rfl⟩ <;>
      exact silent_escape (by decide)
  | spelled => exact (silent_escape (c := 'u') (by decide)).append (silent_hex4 c.toNat)
  | plain hquote hescape hcontrol hspelled =>
    refine silent_char hquote hescape ?_
    have hseparator : Text.isSeparator c = false := by
      simp only [isSpelled, Bool.or_eq_false_iff] at hspelled
      exact hspelled.1.2
    have hbreak : c ≠ '\n' ∧ c ≠ '\r' := by
      constructor <;> rintro rfl <;> exact absurd hcontrol (by decide)
    simp [isLineBreak, hseparator, hbreak.1, hbreak.2]

/-- So is every text. -/
theorem silent_literalChars (cs : List Char) : Silent (cs.flatMap literalChar) := by
  induction cs with
  | nil => exact silent_nil
  | cons c cs ih => exact (silent_literalChar c).append ih

/-- A literal ends where it was meant to end. -/
theorem literalsEnd_literal (s : String) : literalsEnd .code (literal s) = true := by
  show literalsEnd .code ('"' :: (s.toList.flatMap literalChar ++ ['"'])) = true
  simp [literalsEnd, Mode.next, Mode.isCode, isQuote, (silent_literalChars s.toList ['"']).1,
    show isLineBreak '"' = false by decide]

/-- Of a literal only its quotes are left, whatever its text is. -/
theorem hollow_literal (s : String) : hollow .code (literal s) = ['"', '"'] := by
  show hollow .code ('"' :: (s.toList.flatMap literalChar ++ ['"'])) = ['"', '"']
  simp [hollow, Mode.next, Mode.isCode, isQuote, (silent_literalChars s.toList ['"']).2]

/-- Where a reader stands behind a piece of a literal, and that he is still inside of it. -/
theorem skip_of_hollow_eq_nil {α : Type} {f : Mode → List Char → α}
    (hf : ∀ {m c cs}, m.isCode = false → (m.next c).isCode = false →
      f m (c :: cs) = f (m.next c) cs)
    {m : Mode} {piece : List Char} (hm : m.isCode = false) (h : hollow m piece = [])
    (rest : List Char) :
    (piece.foldl Mode.next m).isCode = false
      ∧ f m (piece ++ rest) = f (piece.foldl Mode.next m) rest := by
  induction piece generalizing m with
  | nil => exact ⟨hm, rfl⟩
  | cons c cs ih =>
    rw [hollow, hm] at h
    cases hnext : (m.next c).isCode with
    | true => simp [hnext] at h
    | false =>
      rw [List.cons_append, hf hm hnext]
      exact ih hnext (by simpa [hnext] using h)

/-- A reader who has nothing to do inside of literals passes over silent pieces. -/
theorem Silent.skip {α : Type} {f : Mode → List Char → α}
    (hf : ∀ {m c cs}, m.isCode = false → (m.next c).isCode = false →
      f m (c :: cs) = f (m.next c) cs)
    {piece : List Char} (h : Silent piece) (rest : List Char) :
    f (.quoted '"') (piece ++ rest) = f (.quoted '"') rest := by
  have hpiece : hollow (.quoted '"') piece = [] := by simpa [hollow] using (h []).2
  have hhollow {m : Mode} {c : Char} {cs : List Char} (hm : m.isCode = false)
      (hnext : (m.next c).isCode = false) : hollow m (c :: cs) = hollow (m.next c) cs := by
    simp [hollow, hm, hnext]
  obtain ⟨hinside, hquote⟩ := skip_of_hollow_eq_nil hhollow rfl hpiece ['"']
  -- the quote behind the piece closes the literal, so it is the one that the piece stands in
  have hend : piece.foldl Mode.next (.quoted '"') = .quoted '"' := by
    rw [(h ['"']).2] at hquote
    generalize piece.foldl Mode.next (.quoted '"') = m at hinside hquote ⊢
    cases m with
    | code => exact absurd hinside (by decide)
    | quoted q =>
      by_cases hq : q = '"'
      · rw [hq]
      · simp [hollow, Mode.next, Mode.isCode, Ne.symm hq] at hquote
    | escaped q => simp [hollow, Mode.next, Mode.isCode] at hquote
  rw [(skip_of_hollow_eq_nil hf rfl hpiece rest).2, hend]

/-! ## 4. Chunks -/

/-- Whether a chunk ends its own literals. -/
def Chunk.closed (c : Chunk) : Bool :=
  literalsEnd .code c.print

/-- A chunk without the text of its literal. -/
def Chunk.blank : Chunk → Chunk
  | .code s => .code s
  | .literal _ => .literal ""

/-- What hollowing leaves of chunks, each read on its own. -/
def skeleton (chunks : List Chunk) : List Char :=
  chunks.flatMap fun c => hollow .code c.print

@[simp] theorem Chunk.closed_literal (s : String) : (Chunk.literal s).closed = true :=
  literalsEnd_literal s

/-- The code around the literals is blanked chunk by chunk. -/
@[simp] theorem skeleton_append (a b : List Chunk) : skeleton (a ++ b) = skeleton a ++ skeleton b :=
  List.flatMap_append

/-- Where every chunk is closed all literals end. -/
theorem literalsEnd_printChunks {chunks : List Chunk} (h : ∀ c ∈ chunks, c.closed = true) :
    literalsEnd .code (printChunks chunks) = true := by
  induction chunks with
  | nil => rfl
  | cons c cs ih =>
    have hc : literalsEnd .code c.print = true := h c List.mem_cons_self
    rw [printChunks, List.flatMap_cons, literalsEnd_append hc]
    exact ih fun d hd => h d (List.mem_cons_of_mem _ hd)

/-- Where every chunk is closed blanking leaves the skeleton. -/
theorem hollow_printChunks {chunks : List Chunk} (h : ∀ c ∈ chunks, c.closed = true) :
    hollow .code (printChunks chunks) = skeleton chunks := by
  induction chunks with
  | nil => rfl
  | cons c cs ih =>
    have hc : literalsEnd .code c.print = true := h c List.mem_cons_self
    rw [printChunks, List.flatMap_cons, hollow_append hc, skeleton, List.flatMap_cons]
    congr 1
    exact ih fun d hd => h d (List.mem_cons_of_mem _ hd)

/-- A chunk is blanked like the chunk with its literal emptied. -/
theorem Chunk.hollow_blank (c : Chunk) : hollow .code c.blank.print = hollow .code c.print := by
  cases c with
  | code s => rfl
  | literal s => exact (hollow_literal "").trans (hollow_literal s).symm

/-- The skeleton does not see the texts of literals. -/
theorem skeleton_map_blank (chunks : List Chunk) :
    skeleton (chunks.map Chunk.blank) = skeleton chunks := by
  simp [skeleton, List.flatMap_map, Chunk.hollow_blank]

end Widgetry.Component
