import Widgetry.Proofs.Component.Balance
import Widgetry.Proofs.Component.Literal

/-!
Components are read back uniquely: no two components have one source (`Layout.code_inj`). Each part
of a component determines its contents and where it ends, whatever comes after it, and the sorts of
parts that can stand at one place differ in their first characters. For literals this is
`literal_append_inj`; words end where a character comes that words do not have; and the other parts
are put together from literals, words and code of this library.

Each statement has code behind it, the same for both sides or not, and says that what is behind the
two parts is equal as well. That is what makes the parts compose: a list of options, of properties
or of fragments is read from its front, and no induction has to look ahead.
-/

namespace Widgetry.Component

/-! ## 1. Chunks, and code that differs -/

@[simp] theorem printChunks_nil : printChunks [] = [] := rfl

@[simp] theorem printChunks_code (s : String) (cs : List Chunk) :
    printChunks (.code s :: cs) = s.toList ++ printChunks cs := rfl

@[simp] theorem printChunks_literal (s : String) (cs : List Chunk) :
    printChunks (.literal s :: cs) = literal s ++ printChunks cs := rfl

@[simp] theorem printChunks_append (a b : List Chunk) :
    printChunks (a ++ b) = printChunks a ++ printChunks b :=
  List.flatMap_append

/-- Whether two pieces of code differ before one of them ends. -/
def differ : List Char → List Char → Bool
  | c :: cs, d :: ds => c != d || differ cs ds
  | _, _ => false

/-- Texts that differ at a place differ whatever follows. -/
theorem append_ne_of_differ {a b : List Char} (h : differ a b = true) (r r' : List Char) :
    a ++ r ≠ b ++ r' := by
  induction a generalizing b with
  | nil => simp [differ] at h
  | cons c cs ih =>
    cases b with
    | nil => simp [differ] at h
    | cons d ds =>
      intro heq
      obtain ⟨rfl, hrest⟩ : c = d ∧ cs ++ r = ds ++ r' := by simpa using heq
      exact ih (by simpa [differ] using h) hrest

/-- Pieces of code that are written out character by character and differ. -/
theorem code_ne {s t : String} {cs ds : List Char} (hs : s = String.ofList cs)
    (ht : t = String.ofList ds) (h : differ cs ds = true) {r r' : List Char} :
    s.toList ++ r ≠ t.toList ++ r' := by
  subst hs ht
  simpa using append_ne_of_differ h r r'

/-- The same where the first piece is put together from two. -/
theorem code_append_ne {s s' t : String} {cs cs' ds : List Char} (hs : s = String.ofList cs)
    (hs' : s' = String.ofList cs') (ht : t = String.ofList ds)
    (h : differ (cs ++ cs') ds = true) {r r' : List Char} :
    s.toList ++ (s'.toList ++ r) ≠ t.toList ++ r' := by
  rw [← List.append_assoc, ← String.toList_append]
  exact code_ne (append_eq_ofList hs hs') ht h

/-! ## 2. Words -/

/-- A word ends where a character comes that words do not have. -/
theorem word_append_inj {s t : String} (hs : ∀ c ∈ s.toList, isWordChar c = true)
    (ht : ∀ c ∈ t.toList, isWordChar c = true) {c d : Char} (hc : isWordChar c = false)
    (hd : isWordChar d = false) {r r' : List Char}
    (h : s.toList ++ c :: r = t.toList ++ d :: r') : s = t ∧ c :: r = d :: r' := by
  have hword {w : String} (hw : ∀ x ∈ w.toList, isWordChar x = true) {x : Char}
      (hx : isWordChar x = false) (rest : List Char) :
      (w.toList ++ x :: rest).takeWhile isWordChar = w.toList := by
    rw [List.takeWhile_append_of_pos hw, List.takeWhile_cons_of_neg (by simp [hx]),
      List.append_nil]
  have hchars : s.toList = t.toList := by
    rw [← hword hs hc r, ← hword ht hd r', h]
  rw [hchars, List.append_cancel_left_eq] at h
  exact ⟨String.toList_inj.1 hchars, h⟩

/-- A bare name is not empty, and begins like a word. So it is no literal. -/
theorem exists_cons_of_isBareName {s : String} (h : isBareName s = true) :
    ∃ c cs, s.toList = c :: cs ∧ isWordChar c = true := by
  have hchars : ∀ c ∈ s.toList, isWordChar c = true := fun _ => isWordChar_of_mem_bareName h
  cases hs : s.toList with
  | nil => simp [isBareName, hs] at h
  | cons c cs => exact ⟨c, cs, rfl, hchars c (hs ▸ List.mem_cons_self)⟩

/-- A bare name does not start like a literal. -/
theorem bareName_ne_literal {s t : String} (h : isBareName s = true) {r r' : List Char} :
    s.toList ++ r ≠ literal t ++ r' := by
  obtain ⟨c, cs, hs, hc⟩ := exists_cons_of_isBareName h
  intro heq
  have hquote : c = '"' := by
    rw [hs] at heq
    exact (List.cons.inj heq).1
  rw [hquote] at hc
  exact absurd hc (by decide)

/-! ## 3. Styles -/

/-- A property can be told from its code, whatever comes behind. -/
theorem propertyChunks_append_inj {e f : String × String} {r r' : List Char}
    (h : printChunks (propertyChunks e) ++ r = printChunks (propertyChunks f) ++ r') :
    e = f ∧ r = r' := by
  obtain ⟨k, v⟩ := e
  obtain ⟨k', v'⟩ := f
  have hcolon : ": ".toList = ':' :: [' '] := by decide
  have hword : isWordChar ':' = false := by decide
  simp only [propertyChunks] at h
  split at h <;> split at h
  · rename_i hk hk'
    simp only [printChunks_code, printChunks_literal, printChunks_nil, List.append_assoc,
      List.nil_append, hcolon, List.cons_append] at h
    obtain ⟨rfl, h⟩ := word_append_inj (fun _ => isWordChar_of_mem_bareName hk)
      (fun _ => isWordChar_of_mem_bareName hk') hword hword h
    simpa [literal_append_inj] using h
  · rename_i hk _
    simp only [printChunks_code, printChunks_literal, List.append_assoc] at h
    exact absurd h (bareName_ne_literal hk)
  · rename_i _ hk'
    simp only [printChunks_code, printChunks_literal, List.append_assoc] at h
    exact absurd h.symm (bareName_ne_literal hk')
  · simpa [literal_append_inj, and_assoc] using h

/-- Properties can be told from their code: behind each there is a comma or the end of the style. -/
theorem propertiesChunks_append_inj {es fs : List (String × String)} (hes : es ≠ [])
    (hfs : fs ≠ []) {r r' : List Char}
    (h : printChunks (propertiesChunks es) ++ (r" }".toList ++ r)
      = printChunks (propertiesChunks fs) ++ (r" }".toList ++ r')) :
    es = fs ∧ r = r' := by
  induction es generalizing fs with
  | nil => exact absurd rfl hes
  | cons e es ih =>
    cases fs with
    | nil => exact absurd rfl hfs
    | cons f fs =>
      rcases es with _ | ⟨e', es⟩ <;> rcases fs with _ | ⟨f', fs⟩
      · obtain ⟨rfl, hend⟩ := propertyChunks_append_inj h
        exact ⟨rfl, List.append_cancel_left hend⟩
      · simp only [propertiesChunks, printChunks_append, printChunks_code, List.append_assoc] at h
        obtain ⟨-, h⟩ := propertyChunks_append_inj h
        exact absurd h (code_ne rfl rfl (by decide))
      · simp only [propertiesChunks, printChunks_append, printChunks_code, List.append_assoc] at h
        obtain ⟨-, h⟩ := propertyChunks_append_inj h
        exact absurd h (code_ne rfl rfl (by decide))
      · simp only [propertiesChunks, printChunks_append, printChunks_code, List.append_assoc] at h
        obtain ⟨rfl, htail⟩ := propertyChunks_append_inj h
        obtain ⟨hrest, hr⟩ := ih (List.cons_ne_nil _ _) (List.cons_ne_nil _ _)
          (List.append_cancel_left htail)
        exact ⟨congrArg (e :: ·) hrest, hr⟩

/-- A style determines its properties in their order. -/
theorem Style.chunks_append_inj {s t : Style} {r r' : List Char} :
    printChunks s.chunks ++ r = printChunks t.chunks ++ r' ↔ s = t ∧ r = r' := by
  constructor
  · intro h
    obtain ⟨es⟩ := s
    obtain ⟨fs⟩ := t
    simp only [Style.chunks, List.isEmpty_iff] at h
    split at h <;> split at h
    · rename_i hes hfs
      rw [hes, hfs]
      exact ⟨rfl, by simpa using h⟩
    · simp only [printChunks_append, printChunks_code, List.cons_append, List.append_assoc] at h
      exact absurd h (code_ne rfl rfl (by decide))
    · simp only [printChunks_append, printChunks_code, List.cons_append, List.append_assoc] at h
      exact absurd h (code_ne rfl rfl (by decide))
    · rename_i hes hfs
      simp only [printChunks_append, printChunks_code, printChunks_nil, List.cons_append,
        List.append_assoc, List.nil_append, List.append_cancel_left_eq] at h
      obtain ⟨rfl, hr⟩ := propertiesChunks_append_inj hes hfs h
      exact ⟨rfl, hr⟩
  · rintro ⟨rfl, rfl⟩
    rfl

/-- A style attribute says what its style is. -/
theorem styleAttribute_append_inj {s t : Style} {r r' : List Char} :
    printChunks (styleAttribute s) ++ r = printChunks (styleAttribute t) ++ r'
      ↔ s = t ∧ r = r' := by
  simp [styleAttribute, inBraces, Style.chunks_append_inj]

/-! ## 4. Fragments -/

/-- An option of a known question determines its text. -/
theorem optionChunks_append_inj {id : String} {index : Nat} {o o' : String} {r r' : List Char}
    (h : printChunks (optionChunks id index o) ++ r
      = printChunks (optionChunks id index o') ++ r') : o = o' ∧ r = r' := by
  simp only [optionChunks, inBraces, formData, content, textAttribute, printChunks_append,
    printChunks_code, printChunks_literal, printChunks_nil, List.append_assoc, List.cons_append,
    List.nil_append, List.append_cancel_left_eq, literal_append_inj] at h
  obtain ⟨rfl, h⟩ := h
  simpa [literal_append_inj] using h

/-- The options end where the box of the question does. -/
theorem optionsChunks_append_inj {id : String} {index : Nat} {os os' : List String}
    {r r' : List Char}
    (h : printChunks (optionsChunks id index os) ++ ("\n".toList ++ ("      </div>".toList ++ r))
      = printChunks (optionsChunks id index os')
        ++ ("\n".toList ++ ("      </div>".toList ++ r'))) : os = os' ∧ r = r' := by
  induction os generalizing index os' with
  | nil =>
    cases os' with
    | nil => exact ⟨rfl, by simpa [optionsChunks] using h⟩
    | cons o' os' =>
      simp only [optionsChunks, optionChunks, printChunks_append, printChunks_code,
        printChunks_nil, List.append_assoc, List.cons_append, List.nil_append] at h
      exact absurd h (code_append_ne rfl rfl rfl (by decide))
  | cons o os ih =>
    cases os' with
    | nil =>
      simp only [optionsChunks, optionChunks, printChunks_append, printChunks_code,
        printChunks_nil, List.append_assoc, List.cons_append, List.nil_append] at h
      exact absurd h.symm (code_append_ne rfl rfl rfl (by decide))
    | cons o' os' =>
      simp only [optionsChunks, printChunks_append, List.append_assoc] at h
      obtain ⟨rfl, htail⟩ := optionChunks_append_inj h
      obtain ⟨rfl, hr⟩ := ih htail
      exact ⟨rfl, hr⟩

/-- An opened box determines its id, and its attributes come next. -/
theorem openBox_append_inj {id id' : String} {as as' : List Chunk} {r r' : List Char} :
    printChunks (openBox id as) ++ r = printChunks (openBox id' as') ++ r'
      ↔ id = id' ∧ printChunks as ++ (">\n".toList ++ r)
        = printChunks as' ++ (">\n".toList ++ r') := by
  simp only [openBox, textAttribute, inBraces, printChunks_append, printChunks_code,
    printChunks_literal, printChunks_nil, List.append_assoc, List.cons_append, List.nil_append,
    List.append_cancel_left_eq, literal_append_inj]

/-- An opened box whose only attribute is a style determines the style. -/
theorem styledBox_append_inj {id id' : String} {s t : Style} {r r' : List Char} :
    printChunks (openBox id (styleAttribute s)) ++ r
        = printChunks (openBox id' (styleAttribute t)) ++ r'
      ↔ id = id' ∧ s = t ∧ r = r' := by
  simp only [openBox_append_inj, styleAttribute_append_inj, List.append_cancel_left_eq]

/-- The code behind the opening tag of a fragment's box, where that tag has nothing but a style. -/
def Fragment.lead : Fragment → Option String
  | .text .. => some ("        " ++ r"{")
  | .input .. => some "        <label "
  | .question .. => some "        <p "
  | .button .. => none
  | .placeholder .. => none

/-- Fragments that lead with code of their own have this code behind a box with a style. -/
theorem Fragment.styled_start {f : Fragment} {code : String} (h : f.lead = some code)
    (r : List Char) :
    ∃ id s rest, printChunks f.chunks ++ r
      = printChunks (openBox id (styleAttribute s)) ++ (code.toList ++ rest) := by
  cases f with
  | text id body s =>
    obtain rfl : "        " ++ r"{" = code := Option.some.inj h
    simp only [Fragment.chunks, content, inBraces, printChunks_append, printChunks_code,
      List.append_assoc, List.cons_append, String.toList_append]
    exact ⟨_, _, _, rfl⟩
  | input id label hint =>
    obtain rfl : "        <label " = code := Option.some.inj h
    simp only [Fragment.chunks, printChunks_append, printChunks_code, List.append_assoc,
      List.cons_append]
    exact ⟨_, _, _, rfl⟩
  | question id label options =>
    obtain rfl : "        <p " = code := Option.some.inj h
    simp only [Fragment.chunks, printChunks_append, printChunks_code, List.append_assoc,
      List.cons_append]
    exact ⟨_, _, _, rfl⟩
  | button id label s => simp [Fragment.lead] at h
  | placeholder id kind message => simp [Fragment.lead] at h

/-- A button is no box. -/
theorem button_ne_box {id id' label : String} {s : Style} {as : List Chunk} {r r' : List Char} :
    printChunks (Fragment.button id label s).chunks ++ r
      ≠ printChunks (openBox id' as) ++ r' := by
  simp only [openBox, Fragment.chunks, List.cons_append, printChunks_code, List.append_assoc]
  exact code_ne rfl rfl (by decide)

/-- The box of an element that is not rendered is marked in front of its style. -/
theorem placeholder_ne_styledBox {id id' kind message : String} {s : Style} {r r' : List Char} :
    printChunks (Fragment.placeholder id kind message).chunks ++ r
      ≠ printChunks (openBox id' (styleAttribute s)) ++ r' := by
  simp only [Fragment.chunks, printChunks_append, List.append_assoc, openBox_append_inj, ne_eq]
  simp only [textAttribute, styleAttribute, printChunks_code, List.append_assoc]
  exact fun h => code_ne (append_eq_ofList rfl rfl) rfl (by decide) h.2

/-- A button is no box, and what is not rendered is one. -/
theorem button_ne_placeholder {id id' label kind message : String} {s : Style}
    {r r' : List Char} :
    printChunks (Fragment.button id label s).chunks ++ r
      ≠ printChunks (Fragment.placeholder id' kind message).chunks ++ r' := by
  obtain ⟨as, rest, hbox⟩ : ∃ as rest, printChunks (Fragment.placeholder id' kind message).chunks
      ++ r' = printChunks (openBox id' as) ++ rest := by
    simp only [Fragment.chunks, printChunks_append, List.append_assoc]
    exact ⟨_, _, rfl⟩
  rw [hbox]
  exact button_ne_box

/-- Fragments without such code have no box with only a style. -/
theorem Fragment.ne_styledBox {f : Fragment} (hf : f.lead = none) {id : String} {s : Style}
    {r r' : List Char} :
    printChunks f.chunks ++ r ≠ printChunks (openBox id (styleAttribute s)) ++ r' := by
  cases f with
  | button => exact button_ne_box
  | placeholder => exact placeholder_ne_styledBox
  | text | input | question => simp [lead] at hf

/-- The codes that fragments lead with differ at some place, so that none begins another. -/
theorem differ_of_lead_ne {f g : Fragment} {a b : String} (hf : f.lead = some a)
    (hg : g.lead = some b) (h : a ≠ b) : differ a.toList b.toList = true := by
  have hall : ∀ a ∈ ["        " ++ r"{", "        <label ", "        <p "],
      ∀ b ∈ ["        " ++ r"{", "        <label ", "        <p "],
        a ≠ b → differ a.toList b.toList = true := by decide
  refine hall a ?_ b ?_ h
  · cases f <;> simp_all [Fragment.lead]
  · cases g <;> simp_all [Fragment.lead]

/-- The code behind a styled box shows which sort of fragment it belongs to. -/
theorem Fragment.lead_eq {f g : Fragment} {r r' : List Char}
    (h : printChunks f.chunks ++ r = printChunks g.chunks ++ r') : f.lead = g.lead := by
  cases hf : f.lead with
  | none =>
    cases hg : g.lead with
    | none => rfl
    | some b =>
      obtain ⟨id, s, rest, hstart⟩ := styled_start hg r'
      exact absurd (h.trans hstart) (ne_styledBox hf)
  | some a =>
    obtain ⟨id, s, rest, hstart⟩ := styled_start hf r
    cases hg : g.lead with
    | none => exact absurd (h.symm.trans hstart) (ne_styledBox hg)
    | some b =>
      obtain ⟨id', s', rest', hstart'⟩ := styled_start hg r'
      rw [hstart, hstart', styledBox_append_inj] at h
      by_cases hab : a = b
      · rw [hab]
      · exact absurd h.2.2 (append_ne_of_differ (differ_of_lead_ne hf hg hab) rest rest')

/-- A text says what it is made of. -/
theorem text_append_inj {id id' body body' : String} {s s' : Style} {r r' : List Char}
    (h : printChunks (Fragment.text id body s).chunks ++ r
      = printChunks (Fragment.text id' body' s').chunks ++ r') :
    Fragment.text id body s = .text id' body' s' ∧ r = r' := by
  simp only [Fragment.chunks, content, inBraces, printChunks_append, printChunks_code,
    printChunks_literal, List.append_assoc, List.cons_append, List.nil_append,
    styledBox_append_inj, List.append_cancel_left_eq, literal_append_inj] at h
  obtain ⟨rfl, rfl, rfl, hr⟩ := h
  exact ⟨rfl, hr⟩

/-- An input says what it is made of; its id is read from the box. -/
theorem input_append_inj {id id' label label' hint hint' : String} {r r' : List Char}
    (h : printChunks (Fragment.input id label hint).chunks ++ r
      = printChunks (Fragment.input id' label' hint').chunks ++ r') :
    Fragment.input id label hint = .input id' label' hint' ∧ r = r' := by
  simp only [Fragment.chunks, content, inBraces, formData, changeAttribute, textAttribute,
    printChunks_append, printChunks_code, printChunks_literal, List.append_assoc,
    List.cons_append, List.nil_append, styledBox_append_inj, List.append_cancel_left_eq,
    literal_append_inj] at h
  obtain ⟨rfl, -, rfl, rfl, -, -, hr⟩ := h
  exact ⟨rfl, hr⟩

/-- A button says what it is made of. -/
theorem button_append_inj {id id' label label' : String} {s s' : Style} {r r' : List Char}
    (h : printChunks (Fragment.button id label s).chunks ++ r
      = printChunks (Fragment.button id' label' s').chunks ++ r') :
    Fragment.button id label s = .button id' label' s' ∧ r = r' := by
  simp only [Fragment.chunks, content, inBraces, textAttribute, printChunks_append,
    printChunks_code, printChunks_literal, printChunks_nil, List.append_assoc, List.cons_append,
    List.nil_append, styleAttribute_append_inj, List.append_cancel_left_eq,
    literal_append_inj] at h
  obtain ⟨rfl, rfl, rfl, hr⟩ := h
  exact ⟨rfl, hr⟩

/-- A question says what it is made of: behind its options there is none more. -/
theorem question_append_inj {id id' label label' : String} {options options' : List String}
    {r r' : List Char}
    (h : printChunks (Fragment.question id label options).chunks ++ r
      = printChunks (Fragment.question id' label' options').chunks ++ r') :
    Fragment.question id label options = .question id' label' options' ∧ r = r' := by
  simp only [Fragment.chunks, closeBox, content, inBraces, printChunks_append, printChunks_code,
    printChunks_literal, printChunks_nil, List.append_assoc, List.cons_append, List.nil_append,
    styledBox_append_inj, List.append_cancel_left_eq, literal_append_inj] at h
  obtain ⟨rfl, -, rfl, h⟩ := h
  obtain ⟨rfl, hr⟩ := optionsChunks_append_inj h
  exact ⟨rfl, hr⟩

/-- What stands for an element that is not rendered says what it is made of. -/
theorem placeholder_append_inj {id id' kind kind' message message' : String} {r r' : List Char}
    (h : printChunks (Fragment.placeholder id kind message).chunks ++ r
      = printChunks (Fragment.placeholder id' kind' message').chunks ++ r') :
    Fragment.placeholder id kind message = .placeholder id' kind' message' ∧ r = r' := by
  simp only [Fragment.chunks, content, inBraces, textAttribute, printChunks_append,
    printChunks_code, printChunks_literal, List.append_assoc, List.cons_append, List.nil_append,
    openBox_append_inj, List.append_cancel_left_eq, literal_append_inj] at h
  obtain ⟨rfl, rfl, rfl, hr⟩ := h
  exact ⟨rfl, hr⟩

/-- A fragment determines its sort and its contents. -/
theorem Fragment.chunks_append_inj {f g : Fragment} {r r' : List Char}
    (h : printChunks f.chunks ++ r = printChunks g.chunks ++ r') : f = g ∧ r = r' := by
  -- the sorts with code of their own in front are told apart by it; that leaves two without
  have hlead : f.lead = g.lead := lead_eq h
  cases f with
  | text =>
    cases g with
    | text => exact text_append_inj h
    | input | button | question | placeholder => simp [lead] at hlead
  | input =>
    cases g with
    | input => exact input_append_inj h
    | text | button | question | placeholder => simp [lead] at hlead
  | button =>
    cases g with
    | button => exact button_append_inj h
    | placeholder => exact absurd h button_ne_placeholder
    | text | input | question => simp [lead] at hlead
  | question =>
    cases g with
    | question => exact question_append_inj h
    | text | input | button | placeholder => simp [lead] at hlead
  | placeholder =>
    cases g with
    | placeholder => exact placeholder_append_inj h
    | button => exact absurd h.symm button_ne_placeholder
    | text | input | question => simp [lead] at hlead

/-! ## 5. Components -/

/-- Every fragment is a tag at the same depth. -/
theorem Fragment.exists_tag (f : Fragment) :
    ∃ rest, printChunks f.chunks = "      <".toList ++ rest := by
  have hdiv : "      <div ".toList = "      <".toList ++ "div ".toList := by decide
  have hbutton : "      <button\n        ".toList
      = "      <".toList ++ "button\n        ".toList := by decide
  cases f with
  | button =>
    simp only [Fragment.chunks, printChunks_append, printChunks_code, List.append_assoc,
      List.cons_append, hbutton]
    exact ⟨_, rfl⟩
  | text | input | question | placeholder =>
    simp only [Fragment.chunks, openBox, printChunks_append, printChunks_code, List.append_assoc,
      List.cons_append, hdiv]
    exact ⟨_, rfl⟩

/-- The fragments end where the panel of results begins. -/
theorem fragments_append_inj {fs gs : List Fragment} {r r' : List Char}
    (h : printChunks (fs.flatMap fun f => .code "\n" :: f.chunks)
        ++ (codeBeforePanel.toList ++ r)
      = printChunks (gs.flatMap fun f => .code "\n" :: f.chunks)
        ++ (codeBeforePanel.toList ++ r')) :
    fs = gs ∧ r = r' := by
  induction fs generalizing gs with
  | nil =>
    cases gs with
    | nil => exact ⟨rfl, List.append_cancel_left h⟩
    | cons g gs =>
      obtain ⟨rest, htag⟩ := g.exists_tag
      simp only [List.flatMap_nil, List.flatMap_cons, printChunks_nil, printChunks_append,
        printChunks_code, htag, List.append_assoc, List.nil_append] at h
      exact absurd h.symm (code_append_ne rfl rfl rfl (by decide))
  | cons f fs ih =>
    cases gs with
    | nil =>
      obtain ⟨rest, htag⟩ := f.exists_tag
      simp only [List.flatMap_nil, List.flatMap_cons, printChunks_nil, printChunks_append,
        printChunks_code, htag, List.append_assoc, List.nil_append] at h
      exact absurd h (code_append_ne rfl rfl rfl (by decide))
    | cons g gs =>
      simp only [List.flatMap_cons, printChunks_append, printChunks_code, List.append_assoc,
        List.append_cancel_left_eq] at h
      obtain ⟨rfl, htail⟩ := Fragment.chunks_append_inj h
      obtain ⟨rfl, hr⟩ := ih htail
      exact ⟨rfl, hr⟩

/-- A space comes behind the name of a component. -/
theorem exists_codeBeforeBox : ∃ rest, codeBeforeBox.toList = ' ' :: rest :=
  ⟨codeBeforeBox.toList.tail, by decide +kernel⟩

/-- **Components are read uniquely**: two components whose names are words have one source only if
they agree in name, title, outer style and fragments. -/
theorem Layout.code_inj {l m : Layout} (hl : ∀ c ∈ l.name.toList, isWordChar c = true)
    (hm : ∀ c ∈ m.name.toList, isWordChar c = true) : l.source.code = m.source.code ↔ l = m := by
  constructor
  · intro h
    obtain ⟨rest, hbox⟩ := exists_codeBeforeBox
    have hspace : isWordChar ' ' = false := by decide
    obtain ⟨lname, ltitle, lcontainer, lfragments⟩ := l
    obtain ⟨mname, mtitle, mcontainer, mfragments⟩ := m
    simp only [Layout.source, String.ofList_inj, Layout.chunks, content, inBraces,
      printChunks_append, printChunks_code, printChunks_literal, List.append_assoc,
      List.cons_append, List.nil_append, List.append_cancel_left_eq, hbox] at h
    obtain ⟨rfl, hrest⟩ := word_append_inj hl hm hspace hspace h
    simp only [List.cons.injEq, true_and, List.append_cancel_left_eq, styleAttribute_append_inj,
      literal_append_inj] at hrest
    obtain ⟨rfl, rfl, hfragments⟩ := hrest
    obtain ⟨rfl, -⟩ := fragments_append_inj hfragments
    rfl
  · rintro rfl
    rfl

end Widgetry.Component
