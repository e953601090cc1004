import Widgetry.Proofs.CommandLine.Rendering

/-!
What a component's name owes to its title. Every title has a name that code can declare and a file
can bear, and the name keeps the letters of its title (`name_of_title`): whatever can stand in a
name is kept in its order, with a capital where the title starts and behind every character that is
dropped.

The name is made in one pass that remembers whether a piece begins. Character by character this is
the title with the character before each (`joinedPieces_eq_letters`), and piece by piece it is the
title cut at the characters that are dropped (`joinedPieces_eq_flatMap`).
-/

namespace Widgetry.Component

/-! ## 1. The letters of a title -/

/-- Whether a piece begins behind a character, or where there is none before. -/
def beginsPiece (before : Option Char) : Bool :=
  before.all fun c => !isNameChar c

/-- The characters of a text, each with the one before it if there is one. -/
def withBefore (cs : List Char) : List (Option Char × Char) :=
  (none :: cs.map some).zip cs

/-- The letters that a title leaves in its name: all that a name can hold, in capitals where the
title starts and behind what is dropped, and else as they are. -/
def letters (title : List Char) : List Char :=
  ((withBefore title).filter fun p => isNameChar p.2).map fun p =>
    if beginsPiece p.1 then p.2.toUpper else p.2

/-- A piece with a capital at its start. -/
def capitalized : List Char → List Char
  | [] => []
  | c :: cs => c.toUpper :: cs

/-- The pass with its memory is the title with the character before each. -/
theorem joinedPieces_eq_letters (title : List Char) : joinedPieces true title = letters title := by
  have from_before (before : Option Char) : joinedPieces (beginsPiece before) title
      = (((before :: title.map some).zip title).filter fun p => isNameChar p.2).map fun p =>
        if beginsPiece p.1 then p.2.toUpper else p.2 := by
    induction title generalizing before with
    | nil => rfl
    | cons c cs ih =>
      have hnext := ih (some c)
      cases hc : isNameChar c with
      | true => simpa [joinedPieces, hc, beginsPiece] using hnext
      | false => simpa [joinedPieces, hc, beginsPiece] using hnext
  exact from_before none

/-- The pass is the title cut at what is dropped, with a capital at the start of every piece. -/
theorem joinedPieces_eq_flatMap (title : List Char) :
    joinedPieces true title = (title.splitOnP fun c => !isNameChar c).flatMap capitalized := by
  -- where a piece has begun, only the pieces behind it get a capital
  have both (start : Bool) : ∃ piece pieces,
      (title.splitOnP fun c => !isNameChar c) = piece :: pieces
      ∧ joinedPieces start title
        = (if start then capitalized piece else piece) ++ pieces.flatMap capitalized := by
    induction title generalizing start with
    | nil => exact ⟨[], [], by simp, by cases start <;> rfl⟩
    | cons c cs ih =>
      rw [List.splitOnP_cons_eq_if_modifyHead]
      cases hc : isNameChar c with
      | true =>
        obtain ⟨piece, pieces, hsplit, hjoined⟩ := ih false
        refine ⟨c :: piece, pieces, by simp [hsplit], ?_⟩
        cases start <;> simp [joinedPieces, hc, hjoined, capitalized]
      | false =>
        obtain ⟨piece, pieces, hsplit, hjoined⟩ := ih true
        refine ⟨[], piece :: pieces, by simp [hsplit], ?_⟩
        cases start <;> simp [joinedPieces, hc, hjoined, capitalized]
  obtain ⟨piece, pieces, hsplit, hjoined⟩ := both true
  rw [hjoined, hsplit]
  rfl

/-- The first letter of a name is the first one that the title has for it, as a capital. -/
theorem head?_joinedPieces (title : List Char) :
    (joinedPieces true title).head? = (title.find? isNameChar).map Char.toUpper := by
  induction title with
  | nil => rfl
  | cons c cs ih => cases hc : isNameChar c <;> simp [joinedPieces, hc, ih]

theorem joinedPieces_eq_nil_iff {title : List Char} :
    joinedPieces true title = [] ↔ ∀ c ∈ title, isNameChar c = false := by
  rw [← List.head?_eq_none_iff, head?_joinedPieces, Option.map_eq_none_iff, List.find?_eq_none]
  simp

/-! ## 2. Names -/

theorem toList_name (title : String) : (name title).toList = nameChars title.toList := by
  rw [name, String.toList_ofList]

theorem name_eq_of_toList {title n : String} (h : nameChars title.toList = n.toList) :
    name title = n := by
  rw [name, h, String.ofList_toList]

/-- The first name character of a title is a digit where its capital is one. -/
theorem isDigit_toUpper {c : Char} (h : isNameChar c = true) : c.toUpper.isDigit = c.isDigit :=
  of_ascii (p := fun d => isNameChar d = true → d.toUpper.isDigit = d.isDigit) (by decide)
    (toNat_lt_of_isNameChar h) h

/-- Where a name has anything of its title, it is the letters of the title between the mark that
keeps a digit from the start and the ending. -/
theorem nameChars_of_find? {title : List Char} {c : Char} (h : title.find? isNameChar = some c) :
    nameChars title
      = (if c.isDigit then ['W'] else []) ++ joinedPieces true title ++ nameEnding := by
  have hhead := head?_joinedPieces title
  rw [h] at hhead
  obtain ⟨cs, hcs⟩ := List.head?_eq_some_iff.1 hhead
  rw [nameChars, hcs]
  dsimp only
  rw [isDigit_toUpper (List.find?_some h)]

theorem exists_base (title : List Char) : ∃ base, nameChars title = base ++ nameEnding := by
  rw [nameChars]
  split
  · exact ⟨[], rfl⟩
  · exact ⟨_, rfl⟩

/-- A name that is nothing but its ending has nothing of its title. -/
theorem nameChars_eq_nameEnding_iff {title : List Char} :
    nameChars title = nameEnding ↔ joinedPieces true title = [] := by
  constructor
  · intro h
    have hlength := (CommandLine.length_nameChars title).1
    have hending : nameEnding.length = 6 := rfl
    rw [h, hending] at hlength
    exact List.length_eq_zero_iff.1 (by omega)
  · intro h
    rw [nameChars, h]

/-- Whether a character can start a name. -/
def StartsName (c : Char) : Prop :=
  c.isUpper = true ∨ c = '_'

theorem startsName_toUpper {c : Char} (h : isNameChar c = true) (hdigit : c.isDigit = false) :
    StartsName c.toUpper :=
  of_ascii (p := fun d => isNameChar d = true → d.isDigit = false → StartsName d.toUpper)
    (by unfold StartsName; decide) (toNat_lt_of_isNameChar h) h hdigit

theorem toUpper_of_startsName {c : Char} (h : StartsName c) (hname : isNameChar c = true) :
    c.toUpper = c :=
  of_ascii (p := fun d => isNameChar d = true → StartsName d → d.toUpper = d)
    (by unfold StartsName; decide) (toNat_lt_of_isNameChar hname) hname h

theorem not_isDigit_of_startsName {c : Char} (h : StartsName c) (hname : isNameChar c = true) :
    c.isDigit = false :=
  of_ascii (p := fun d => isNameChar d = true → StartsName d → d.isDigit = false)
    (by unfold StartsName; decide) (toNat_lt_of_isNameChar hname) hname h

/-- A name starts with a capital or an underscore. -/
theorem exists_start (title : List Char) :
    ∃ c cs, nameChars title = c :: cs ∧ StartsName c := by
  cases hfind : title.find? isNameChar with
  | none =>
    have hnil : joinedPieces true title = [] := by
      rw [← List.head?_eq_none_iff, head?_joinedPieces, hfind, Option.map_none]
    exact ⟨'W', _, by rw [nameChars, hnil]; rfl, .inl (by decide)⟩
  | some c =>
    have hhead := head?_joinedPieces title
    rw [hfind] at hhead
    obtain ⟨cs, hcs⟩ := List.head?_eq_some_iff.1 hhead
    rw [nameChars_of_find? hfind, hcs]
    cases hdigit : c.isDigit with
    | true => exact ⟨'W', _, rfl, .inl (by decide)⟩
    | false => exact ⟨c.toUpper, _, rfl, startsName_toUpper (List.find?_some hfind) hdigit⟩

/-- What is a name already is kept as it is, with one more ending. -/
theorem nameChars_of_start {c : Char} {cs : List Char} (hstart : StartsName c)
    (hcs : ∀ d ∈ c :: cs, isNameChar d = true) : nameChars (c :: cs) = c :: cs ++ nameEnding := by
  obtain ⟨hc, hrest⟩ := List.forall_mem_cons.1 hcs
  have hkept (ds : List Char) (hds : ∀ d ∈ ds, isNameChar d = true) :
      joinedPieces false ds = ds := by
    induction ds with
    | nil => rfl
    | cons d ds ih =>
      obtain ⟨hd, hds⟩ := List.forall_mem_cons.1 hds
      simp [joinedPieces, hd, ih hds]
  have hfind : (c :: cs).find? isNameChar = some c := List.find?_cons_of_pos hc
  rw [nameChars_of_find? hfind, joinedPieces, if_pos hc, hkept cs hrest]
  simp [toUpper_of_startsName hstart hc, not_isDigit_of_startsName hstart hc]

/-! ## 3. Names and their titles -/

/-- A text is the name of a title.

It can be declared in code, and it ends in `Widget`, which is all of it where the title has nothing
that a name can hold. Otherwise the letters of the title come before, behind a `W` if they start
with a digit. The name's file can be written beside the file of the snippet, and the name of the
name is the name with one more ending. -/
structure IsNameOf (title n : String) : Prop where
  start : ∃ c cs, n.toList = c :: cs ∧ StartsName c ∧ ∀ d ∈ cs, isNameChar d = true
  ending : ∃ base, n = base ++ "Widget"
  plain : n = "Widget" ↔ ∀ c ∈ title.toList, isNameChar c = false
  kept : ∀ c, title.toList.find? isNameChar = some c →
    n.toList = (if c.isDigit then ['W'] else []) ++ letters title.toList ++ nameEnding
  pieces : letters title.toList
    = (title.toList.splitOnP fun c => !isNameChar c).flatMap capitalized
  file : Path.IsFileName (fileName n) ∧ fileName n ≠ CommandLine.embedFile
  again : name n = n ++ "Widget"

/-- **A component's name is the name of its title.** -/
theorem name_of_title (title : String) : IsNameOf title (name title) where
  start := by
    obtain ⟨c, cs, hchars, hc⟩ := exists_start title.toList
    refine ⟨c, cs, by rw [toList_name, hchars], hc, fun d hd => ?_⟩
    exact isNameChar_of_mem_nameChars (hchars ▸ List.mem_cons_of_mem c hd)
  ending := by
    obtain ⟨base, hbase⟩ := exists_base title.toList
    refine ⟨String.ofList base, name_eq_of_toList ?_⟩
    rw [hbase, String.toList_append, String.toList_ofList]
    rfl
  plain := by
    rw [← String.toList_inj, toList_name, ← joinedPieces_eq_nil_iff]
    exact nameChars_eq_nameEnding_iff
  kept c hc := by
    rw [toList_name, nameChars_of_find? hc, joinedPieces_eq_letters]
  pieces := by
    rw [← joinedPieces_eq_letters, joinedPieces_eq_flatMap]
  file := ⟨CommandLine.isFileName_fileName title, CommandLine.fileName_ne_embedFile _⟩
  again := by
    obtain ⟨c, cs, hchars, hc⟩ := exists_start title.toList
    refine name_eq_of_toList ?_
    rw [toList_name, String.toList_append, toList_name, hchars]
    exact nameChars_of_start hc fun d hd => isNameChar_of_mem_nameChars (hchars ▸ hd)

/-- Capitals come behind dropped characters, and not behind an underscore. -/
example : name "2nd café_au lait" = "W2ndCaf_auLaitWidget" := by decide

end Widgetry.Component
