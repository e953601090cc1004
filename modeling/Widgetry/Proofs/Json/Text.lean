import Widgetry.Json.Printer

/-!
Quoted text is read back. There are three ways to write a character so that a reader finds it again:
a short escape, its code point in four digits, and the character itself (`Spells`). A text whose
characters are all written in one of them is read as this text, and reading stops behind its closing
quote (`scanText_spelled`). The text values of documents are written so.

Literals of scripts are written in other forms than texts of documents, but every form of a
character is among the three, so that a reader of documents reads literals too. That the quote which
ends a text is its own is part of the statement: no character is spelled with a bare quote.
-/

namespace Widgetry.Json

open Text (hex4 hexDigit)

/-! ## 1. Characters -/

/-- The ways to write a character that a reader undoes. -/
inductive Spells (c : Char) : List Char → Prop
  | short {e : Char} (h : shortEscape? e = some c) : Spells c ['\\', e]
  | code (h : c.toNat < 0xD800) : Spells c ('\\' :: 'u' :: hex4 c.toNat)
  | plain (hquote : c ≠ '"') (hescape : c ≠ '\\') (hcontrol : 0x20 ≤ c.toNat) : Spells c [c]

theorem codeUnit?_hex4 {n : Nat} (h : n < 0x10000) :
    codeUnit? (hexDigit (n / 4096 % 16)) (hexDigit (n / 256 % 16)) (hexDigit (n / 16 % 16))
      (hexDigit (n % 16)) = some n := by
  have digit : ∀ k < 16, hexDigit? (hexDigit k) = some k := by decide
  have hdigit (k : Nat) : hexDigit? (hexDigit (k % 16)) = some (k % 16) :=
    digit (k % 16) (Nat.mod_lt k (by decide))
  have hvalue : ((n / 4096 % 16 * 16 + n / 256 % 16) * 16 + n / 16 % 16) * 16 + n % 16 = n := by
    omega
  simp only [codeUnit?, hdigit, Option.pure_def, Option.bind_eq_bind, Option.bind_some, hvalue]

/-- A code unit that is no half of a pair is the character with this code point. -/
theorem joinPieces_code {n : Nat} (h : n < 0xD800) (stopped : Option Stop) (before : Nat)
    (rest : List Piece) :
    joinPieces stopped before (.code n :: rest)
      = (joinPieces stopped (before + 6) rest).map (Char.ofNat n :: ·) := by
  have hleading : isLeading n = false := by
    simp only [isLeading, Bool.and_eq_false_iff, decide_eq_false_iff_not]
    omega
  have htrailing : isTrailing n = false := by
    simp only [isTrailing, Bool.and_eq_false_iff, decide_eq_false_iff_not]
    omega
  conv => lhs; unfold joinPieces
  simp [hleading, htrailing]

theorem scanText_plain {c : Char} (hquote : c ≠ '"') (hescape : c ≠ '\\') (rest : List Char) :
    scanText (c :: rest) = if c.toNat < 0x20 then ⟨[], some .control, []⟩
      else (scanText rest).push (.char c) := by
  rw [scanText] <;> simp [hquote, hescape]

/-- A reader finds one piece for a character that is written in one of these ways, and the piece
stands for the character, wherever it is. -/
theorem Spells.exists_piece {c : Char} {form : List Char} (h : Spells c form) :
    ∃ p : Piece, (∀ rest, scanText (form ++ rest) = (scanText rest).push p)
      ∧ ∀ before ps, joinPieces none before (p :: ps)
        = (joinPieces none (before + p.width) ps).map (c :: ·) := by
  cases h with
  | @short e h =>
    have hu : e ≠ 'u' := by
      rintro rfl
      simp [shortEscape?] at h
    exact ⟨.short c, fun rest => by simp [scanText, h, hu], fun _ _ => by rw [joinPieces]; rfl⟩
  | code h =>
    have hunit := codeUnit?_hex4 (n := c.toNat) (Nat.lt_trans h (by decide))
    refine ⟨.code c.toNat, fun rest => by simp [scanText, hex4, hunit], fun before ps => ?_⟩
    rw [joinPieces_code h, Char.ofNat_toNat]
    rfl
  | plain hquote hescape hcontrol =>
    refine ⟨.char c, fun rest => ?_, fun _ _ => by rw [joinPieces]; rfl⟩
    rw [List.singleton_append, scanText_plain hquote hescape, if_neg (Nat.not_lt.2 hcontrol)]

/-! ## 2. Texts -/

/-- A text whose characters are all written in such a way is read back, and what follows it is left.
-/
theorem scanText_spelled {form : Char → List Char} (h : ∀ c, Spells c (form c)) (s : String)
    (rest : List Char) :
    (scanText (s.toList.flatMap form ++ '"' :: rest)).token = .text (.ok s)
      ∧ (scanText (s.toList.flatMap form ++ '"' :: rest)).rest = rest := by
  have hpieces (cs : List Char) : ∃ ps, scanText (cs.flatMap form ++ '"' :: rest) = ⟨ps, none, rest⟩
      ∧ ∀ before, joinPieces none before ps = .ok cs := by
    induction cs with
    | nil => exact ⟨[], by simp [scanText], fun _ => rfl⟩
    | cons c cs ih =>
      obtain ⟨ps, hscan, hjoin⟩ := ih
      obtain ⟨p, hpush, hp⟩ := (h c).exists_piece
      refine ⟨p :: ps, ?_, fun before => by rw [hp, hjoin]; rfl⟩
      rw [List.flatMap_cons, List.append_assoc, hpush, hscan]
      rfl
  obtain ⟨ps, hscan, hjoin⟩ := hpieces s.toList
  rw [hscan]
  simp [Scanned.token, hjoin, Except.map]

/-- The characters of a text value are written so that they are read back. -/
theorem spells_escaped (c : Char) : Spells c (escaped c) := by
  unfold escaped
  iterate 7
    split
    · rename_i h
      exact .short (by rw [beq_iff_eq.1 h]; rfl)
  split
  · rename_i h
    exact .code (by omega)
  · rename_i hquote hescape _ _ _ _ _ hcontrol
    exact .plain (fun h => hquote (beq_iff_eq.2 h)) (fun h => hescape (beq_iff_eq.2 h))
      (Nat.not_lt.1 hcontrol)

end Widgetry.Json
