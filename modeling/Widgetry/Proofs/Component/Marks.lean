import Widgetry.Proofs.Component.Readability

/-!
Marks in the code of a component: attributes, calls and comparisons that a reader can find by the
code they begin with, each with the literal or the word behind it. `marks` looks for them at every
place outside of literals, from left to right.

Each part of a component leaves its own marks, whatever comes before and after it (`Reads`). A
literal leaves none, whatever text it holds (`reads_literal`), and neither does a word that ends
where no mark can go on (`marks_word`). Fixed code is looked through once (`reads_mute`), and a mark
is found where its code is written (`marks_sign`).
-/

namespace Widgetry.Component

/-! ## 1. A reader of marks -/

/-- What marks begin with. -/
inductive Sign where
  /-- the attribute that ties a box to its element -/
  | element
  /-- the name of a control -/
  | name
  /-- a value in the data of the form -/
  | stored
  /-- a call that changes a value in the data of the form -/
  | changed
  /-- a control -/
  | control
  /-- the sort of a control -/
  | sort
  /-- the number of an option -/
  | index
  /-- the value of a control -/
  | value
  /-- a comparison -/
  | compared
  /-- the end of a control with a caption behind it -/
  | caption
  /-- the start of the panel -/
  | panel
  deriving Repr, DecidableEq

namespace Sign

/-- All signs. -/
def all : List Sign :=
  [element, name, stored, changed, control, sort, index, value, compared, caption, panel]

/-- The code of a sign. -/
def text : Sign → List Char
  | element => ['d', 'a', 't', 'a', '-', 'e', 'l', 'e', 'm', 'e', 'n', 't', '-', 'i', 'd', '=']
  | name => ['n', 'a', 'm', 'e', '=']
  | stored => ['f', 'o', 'r', 'm', 'D', 'a', 't', 'a', '[']
  | changed =>
    ['h', 'a', 'n', 'd', 'l', 'e', 'I', 'n', 'p', 'u', 't', 'C', 'h', 'a', 'n', 'g', 'e', '(']
  | control => ['<', 'i', 'n', 'p', 'u', 't']
  | sort => ['t', 'y', 'p', 'e', '=']
  | index => ['k', 'e', 'y', '=']
  | value => ['v', 'a', 'l', 'u', 'e', '=']
  | compared => ['=', '=', '=', ' ']
  | caption => ['/', '>', '\n', ' ', ' ', ' ', ' ', ' ', ' ', ' ', ' ', ' ', ' ']
  | panel => ['{', 'r', 'e', 's', 'u', 'l', 't', 's', ' ', '&', '&', ' ', '(']

/-- What stands around the operand of a sign, if it has one. -/
def frame : Sign → Option (List Char × List Char)
  | element | name | index | value | caption => some (['{'], ['}'])
  | stored => some ([], [']'])
  | changed => some ([], [','])
  | compared => some ([], ['}'])
  | sort => some ([], [])
  | control | panel => none

end Sign

/-- The code behind a literal. -/
def afterLiteral : Mode → List Char → List Char
  | _, [] => []
  | m, c :: cs => if (m.next c).isCode then cs else afterLiteral (m.next c) cs

/-- The literal or the word with which code begins. -/
def operandAt : List Char → List Char
  | [] => []
  | c :: cs =>
    if isQuote c then (c :: cs).take ((c :: cs).length - (afterLiteral (.quoted c) cs).length)
    else (c :: cs).takeWhile isWordChar

/-- The operand of a sign behind which there is this code. -/
def Sign.operand (s : Sign) (cs : List Char) : Option (List Char) :=
  s.frame.bind fun (before, after) =>
    let operand := operandAt (cs.drop before.length)
    if (before ++ operand ++ after).isPrefixOf cs then some operand else none

/-- A sign, and the operand behind it. -/
structure Mark where
  sign : Sign
  operand : Option (List Char)
  deriving Repr, DecidableEq

/-- The marks at the start of code. -/
def marksAt (cs : List Char) : List Mark :=
  (Sign.all.filter fun s => s.text.isPrefixOf cs).map fun s =>
    ⟨s, s.operand (cs.drop s.text.length)⟩

/-- The marks in code, outside of literals. -/
def marks : Mode → List Char → List Mark
  | _, [] => []
  | m, c :: cs => (if m.isCode then marksAt (c :: cs) else []) ++ marks (m.next c) cs

/-- Whether no mark begins in code behind which there is this code. -/
def mute (n : List Char) : Mode → List Char → Bool
  | m, [] => m.isCode
  | m, c :: cs =>
    (!m.isCode || Sign.all.all fun s => differ s.text (c :: cs ++ n)) && mute n (m.next c) cs

/-! ## 2. Marks at one place -/

theorem Sign.mem_all (s : Sign) : s ∈ all := by
  cases s <;> decide

/-- No two signs begin alike. -/
theorem Sign.differ_text {s t : Sign} (h : s ≠ t) : differ s.text t.text = true := by
  have hall : ∀ s ∈ all, ∀ t ∈ all, s ≠ t → differ s.text t.text = true := by decide +kernel
  exact hall s s.mem_all t t.mem_all h

/-- Where no sign begins there is no mark. -/
theorem marksAt_eq_nil {cs : List Char} (h : ∀ s : Sign, ¬s.text <+: cs) : marksAt cs = [] := by
  rw [marksAt, List.map_eq_nil_iff, List.filter_eq_nil_iff]
  intro s _ hs
  exact h s (List.isPrefixOf_iff_prefix.1 hs)

/-- Where the code of a sign stands, there is its mark and no other. -/
theorem marksAt_sign (s : Sign) (cs : List Char) :
    marksAt (s.text ++ cs) = [⟨s, s.operand cs⟩] := by
  have hsame (t : Sign) : t.text.isPrefixOf (s.text ++ cs) = decide (t = s) := by
    by_cases h : t = s
    · rw [decide_eq_true h, h, List.isPrefixOf_iff_prefix]
      exact List.prefix_append _ _
    · rw [decide_eq_false h, Bool.eq_false_iff, ne_eq, List.isPrefixOf_iff_prefix]
      rintro ⟨rest, hrest⟩
      exact append_ne_of_differ (Sign.differ_text h) rest cs hrest
  have hfilter : Sign.all.filter (fun t => t.text.isPrefixOf (s.text ++ cs)) = [s] := by
    simp only [hsame]
    cases s <;> rfl
  simp [marksAt, hfilter]

/-- A text that differs from another is not at its beginning, whatever follows. -/
theorem not_prefix_of_differ {a b : List Char} (h : differ a b = true) (rest : List Char) :
    ¬a <+: b ++ rest := by
  rintro ⟨r, hr⟩
  exact append_ne_of_differ h r rest hr

/-! ## 3. Marks of pieces -/

/-- Outside of literals a piece of code leaves these marks, whatever comes behind it. -/
def Reads (cs : List Char) (ms : List Mark) : Prop :=
  ∀ rest, marks .code (cs ++ rest) = ms ++ marks .code rest

theorem reads_nil : Reads [] [] := fun _ => rfl

/-- Texts are read for marks one after another. -/
theorem Reads.append {a b : List Char} {ms ns : List Mark} (ha : Reads a ms) (hb : Reads b ns) :
    Reads (a ++ b) (ms ++ ns) := by
  intro rest
  rw [List.append_assoc, ha, hb, List.append_assoc]

/-- A place at which no sign begins is passed. -/
theorem marks_cons {c : Char} {cs : List Char} (h : ∀ s : Sign, ¬s.text <+: c :: cs) :
    marks .code (c :: cs) = marks (Mode.next .code c) cs := by
  simp [marks, marksAt_eq_nil h]

/-- Text in which no sign begins is passed over, up to what follows. -/
theorem marks_mute {n : List Char} {m : Mode} {w : List Char} (h : mute n m w = true)
    (rest : List Char) : marks m (w ++ (n ++ rest)) = marks .code (n ++ rest) := by
  induction w generalizing m with
  | nil => rw [Mode.eq_code h, List.nil_append]
  | cons c cs ih =>
    simp only [mute, Bool.and_eq_true, Bool.or_eq_true, Bool.not_eq_true', List.all_eq_true] at h
    have hhere : (if m.isCode then marksAt (c :: (cs ++ (n ++ rest))) else []) = [] := by
      split
      · rename_i hm
        have hdiffer := h.1.resolve_left (by simp [hm])
        refine marksAt_eq_nil fun s => ?_
        simpa using not_prefix_of_differ (hdiffer s s.mem_all) rest
      · rfl
    rw [List.cons_append, marks, hhere, List.nil_append, ih h.2]

/-- Code without marks. -/
theorem reads_mute {w : List Char} (h : mute [] .code w = true) : Reads w [] :=
  marks_mute h

/-- Code that has no marks in front of what begins like this. -/
theorem Reads.behind {w n cs : List Char} {ms : List Mark} (hcs : Reads cs ms)
    (hn : n <+: cs) (hw : mute n .code w = true) : Reads (w ++ cs) ms := by
  obtain ⟨tail, rfl⟩ := hn
  intro rest
  rw [← hcs rest, List.append_assoc, List.append_assoc, marks_mute hw]

/-- A mark is found where the code of its sign stands. -/
theorem Reads.sign {s : Sign} {n cs : List Char} {operand : Option (List Char)}
    {ms : List Mark} (hcs : Reads cs ms) (hn : n <+: cs)
    (hmute : mute n .code s.text.tail = true)
    (hoperand : ∀ rest, s.operand (cs ++ rest) = operand) :
    Reads (s.text ++ cs) (⟨s, operand⟩ :: ms) := by
  obtain ⟨c, code, htext, hquote⟩ : ∃ c code, s.text = c :: code ∧ isQuote c = false := by
    cases s <;> exact ⟨_, _, rfl, by decide⟩
  obtain ⟨tail, rfl⟩ := hn
  intro rest
  have hat := marksAt_sign s (n ++ tail ++ rest)
  rw [hoperand] at hat
  rw [htext, List.tail_cons] at hmute
  rw [List.append_assoc, List.cons_append, ← hcs rest]
  rw [htext, List.cons_append] at hat ⊢
  rw [marks, hat]
  simp [Mode.isCode, Mode.next, hquote, List.append_assoc, marks_mute hmute]

/-! ## 4. Literals -/

/-- No sign begins with a quote. -/
theorem not_prefix_quote (s : Sign) (cs : List Char) : ¬s.text <+: '"' :: cs :=
  not_prefix_of_differ (b := ['"'])
    ((by decide : ∀ s ∈ Sign.all, differ s.text ['"'] = true) s s.mem_all) cs

/-- A literal has no marks, whatever its text is. -/
theorem reads_literal (v : String) : Reads (literal v) [] := by
  intro rest
  have hskip := (silent_literalChars v.toList).skip (f := marks)
    (fun hm _ => by simp [marks, hm]) ('"' :: rest)
  show marks .code ('"' :: (v.toList.flatMap literalChar ++ ['"']) ++ rest) = marks .code rest
  rw [List.cons_append, List.append_assoc, marks_cons fun s => not_prefix_quote s _]
  exact hskip

/-- A literal ends at its own closing quote. -/
theorem afterLiteral_literalChars (v : String) (rest : List Char) :
    afterLiteral (.quoted '"') (v.toList.flatMap literalChar ++ '"' :: rest) = rest := by
  rw [(silent_literalChars v.toList).skip (f := afterLiteral)
    (fun _ hn => by simp [afterLiteral, hn])]
  rfl

/-- A literal is an operand as a whole. -/
theorem operandAt_literal (v : String) (rest : List Char) :
    operandAt (literal v ++ rest) = literal v := by
  have hafter := afterLiteral_literalChars v rest
  have hliteral : literal v ++ rest = '"' :: (v.toList.flatMap literalChar ++ '"' :: rest) := by
    simp [literal]
  have hlength : (literal v ++ rest).length - rest.length = (literal v).length := by simp
  rw [hliteral] at hlength
  rw [hliteral, operandAt, if_pos (by decide), hafter, hlength, ← hliteral, List.take_left]

/-! ## 5. Words -/

/-- Where a word is at the front of code, nothing can be there that goes on differently behind the
word it begins with. -/
theorem not_prefix_word {w p : List Char} {c d : Char} (hw : ∀ x ∈ w, isWordChar x = true)
    (hc : isWordChar c = false) (hp : (p.dropWhile isWordChar).head? = some d) (hne : d ≠ c)
    (rest : List Char) : ¬p <+: w ++ c :: rest := by
  rintro ⟨r, hr⟩
  have hdrop : (w ++ c :: rest).dropWhile isWordChar = c :: rest := by
    rw [List.dropWhile_append_of_pos hw, List.dropWhile_cons_of_neg (by simp [hc])]
  obtain ⟨tail, htail⟩ := List.head?_eq_some_iff.1 hp
  rw [← hr, List.dropWhile_append, htail] at hdrop
  exact hne (List.cons.inj hdrop).1

/-- Whether every sign goes on differently behind the word it begins with. -/
def endsWords (c : Char) : Bool :=
  !isWordChar c && Sign.all.all fun s => (s.text.dropWhile isWordChar).head?.any (· != c)

/-- A word in front of such a character has no marks. -/
theorem Reads.word {w cs : List Char} {c : Char} {ms : List Mark} (hcs : Reads (c :: cs) ms)
    (hw : ∀ x ∈ w, isWordChar x = true) (hc : endsWords c = true) : Reads (w ++ c :: cs) ms := by
  simp only [endsWords, Bool.and_eq_true, Bool.not_eq_true', List.all_eq_true,
    Option.any_eq_true, bne_iff_ne] at hc
  induction w with
  | nil => exact hcs
  | cons x w ih =>
    intro rest
    have hquote : isQuote x = false := isQuote_of_isWordChar (hw x List.mem_cons_self)
    have hnone (s : Sign) : ¬s.text <+: x :: w ++ c :: (cs ++ rest) := by
      obtain ⟨d, hd, hne⟩ := hc.2 s s.mem_all
      exact not_prefix_word hw hc.1 hd hne _
    have hrest := ih (fun y hy => hw y (List.mem_cons_of_mem _ hy)) rest
    simp only [List.cons_append, List.append_assoc] at hnone hrest ⊢
    rw [marks_cons hnone, Mode.next, hquote, if_neg Bool.false_ne_true, hrest]

/-- Neither has a word in braces: the panel, which begins with a brace and a word, goes on with a
space. -/
theorem reads_braced_word {w : List Char} (hw : ∀ x ∈ w, isWordChar x = true) :
    Reads ('{' :: (w ++ ['}'])) [] := by
  have hinside : Reads (w ++ ['}']) [] :=
    (reads_mute (w := ['}']) (by decide)).word hw (by decide)
  intro rest
  have hnone (s : Sign) : ¬s.text <+: '{' :: (w ++ ['}'] ++ rest) := by
    by_cases hs : s = .panel
    · have hpanel : Sign.panel.text = '{' :: Sign.panel.text.tail := rfl
      rw [hs, hpanel, List.cons_prefix_cons, List.append_assoc]
      rintro ⟨-, h⟩
      exact not_prefix_word hw (by decide) (d := ' ') (by decide) (by decide) rest h
    · have hall : ∀ s ∈ Sign.all, s ≠ .panel → differ s.text ['{'] = true := by decide
      exact not_prefix_of_differ (hall s s.mem_all hs) _
  rw [List.cons_append, marks_cons hnone]
  exact hinside rest

/-- A word is an operand up to its last character. -/
theorem operandAt_word {w : List Char} (hw : ∀ x ∈ w, isWordChar x = true) {c : Char}
    (hc : isWordChar c = false) (hquote : isQuote c = false) (rest : List Char) :
    operandAt (w ++ c :: rest) = w := by
  have htake : (w ++ c :: rest).takeWhile isWordChar = w := by
    rw [List.takeWhile_append_of_pos hw, List.takeWhile_cons_of_neg (by simp [hc]),
      List.append_nil]
  cases w with
  | nil => simp [operandAt, hquote, hc]
  | cons x w =>
    have hx : isQuote x = false := isQuote_of_isWordChar (hw x List.mem_cons_self)
    rw [List.cons_append] at htake ⊢
    simp [operandAt, hx, htake]

/-! ## 6. Operands -/

/-- What is found between the frame of a sign is its operand. -/
theorem Sign.operand_eq {s : Sign} {before after operand : List Char}
    (hs : s.frame = some (before, after)) (rest : List Char)
    (hoperand : operandAt (operand ++ (after ++ rest)) = operand) :
    s.operand (before ++ operand ++ after ++ rest) = some operand := by
  simp [Sign.operand, hs, hoperand]

/-- A sign whose operand is framed has the literal inside the frame. -/
theorem Sign.operand_literal {s : Sign} {before after : List Char}
    (hs : s.frame = some (before, after)) (v : String) (rest : List Char) :
    s.operand (before ++ literal v ++ after ++ rest) = some (literal v) :=
  operand_eq hs rest (operandAt_literal v _)

/-- A word behind which the frame does not end is no operand. -/
theorem Sign.operand_word_eq_none {s : Sign} {before after w : List Char} {c : Char}
    (hs : s.frame = some (before, after)) (hw : ∀ x ∈ w, isWordChar x = true)
    (hc : isWordChar c = false ∧ isQuote c = false) {rest : List Char}
    (hafter : ¬after <+: c :: rest) : s.operand (before ++ (w ++ c :: rest)) = none := by
  have hdrop : (before ++ (w ++ c :: rest)).drop before.length = w ++ c :: rest := by simp
  have hframe : ¬(before ++ w ++ after).isPrefixOf (before ++ (w ++ c :: rest)) := by
    rw [List.isPrefixOf_iff_prefix, List.append_assoc, List.prefix_append_right_inj,
      List.prefix_append_right_inj]
    exact hafter
  simp only [Sign.operand, hs, Option.bind_some, hdrop, operandAt_word hw hc.1 hc.2, if_neg hframe]

theorem Sign.operand_of_frame_eq_none {s : Sign} (hs : s.frame = none) (cs : List Char) :
    s.operand cs = none := by
  simp [Sign.operand, hs]

end Widgetry.Component
