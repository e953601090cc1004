import Widgetry.Proofs.Component.Content
import Widgetry.Proofs.Component.Marks

/-!
Elements are bound to their ids. The marks of a component are those of its elements, one element
after the other, and then that of the panel (`emit_marks`). The marks of an element begin with the
one that holds its id, and whatever reads or changes a value of the form in between holds the same
id. Ids are told apart by their literals, so elements do not share a value.

A mark is found by its code, so what has to be shown of each part of a component is twofold: the
marks that it was written with are found, with their operands, and no other code in it is taken for
a mark, whatever texts its literals hold. Both are one statement about the part (`Bears`), which
holds whatever comes before and behind it, and the parts are put together in the order in which they
are written.
-/

namespace Widgetry.Component

/-! ## 1. Chunks with marks -/

/-- Chunks whose code leaves these marks. -/
def Bears (chunks : List Chunk) (ms : List Mark) : Prop :=
  Reads (printChunks chunks) ms

/-- The marks of code are those of its parts, in their order. -/
theorem Bears.append {a b : List Chunk} {ms ns : List Mark} (ha : Bears a ms) (hb : Bears b ns) :
    Bears (a ++ b) (ms ++ ns) := by
  rw [Bears, printChunks_append]
  exact Reads.append ha hb

theorem Bears.cons {c : Chunk} {cs : List Chunk} {ms ns : List Mark} (hc : Bears [c] ms)
    (hcs : Bears cs ns) : Bears (c :: cs) (ms ++ ns) :=
  Bears.append hc hcs

/-- Code that is written out character by character. -/
theorem bears_code {code : String} {cs : List Char} {ms : List Mark}
    (h : code = String.ofList cs) (hcs : Reads cs ms) : Bears [.code code] ms := by
  rw [Bears, printChunks_code, h, String.toList_ofList, printChunks_nil, List.append_nil]
  exact hcs

/-- Code in which no sign begins bears no mark. -/
theorem bears_mute {code : String} {cs : List Char} (h : code = String.ofList cs)
    (hcs : mute [] .code cs = true) : Bears [.code code] [] :=
  bears_code h (reads_mute hcs)

/-- A literal bears no mark: what looks like a sign in its text is text. -/
theorem bears_literal (v : String) : Bears [.literal v] [] := by
  rw [Bears, printChunks_literal, printChunks_nil, List.append_nil]
  exact reads_literal v

/-- Code that has no marks in front of chunks that begin like this. -/
theorem Bears.behind {code : String} {w n : List Char} {chunks : List Chunk} {ms : List Mark}
    (hchunks : Bears chunks ms) (hn : n <+: printChunks chunks)
    (h : code = String.ofList w) (hw : mute n .code w = true) :
    Bears (.code code :: chunks) ms := by
  rw [Bears, printChunks_code, h, String.toList_ofList]
  exact Reads.behind hchunks hn hw

/-- Code that ends in a sign. -/
theorem Bears.sign {code : String} {w n : List Char} {s : Sign}
    {operand : Option (List Char)} {chunks : List Chunk} {ms : List Mark}
    (hchunks : Bears chunks ms) (hn : n <+: printChunks chunks)
    (hoperand : ∀ rest, s.operand (printChunks chunks ++ rest) = operand)
    (h : code = String.ofList (w ++ s.text))
    (hw : mute [] .code w = true ∧ mute n .code s.text.tail = true) :
    Bears (.code code :: chunks) (⟨s, operand⟩ :: ms) := by
  rw [Bears, printChunks_code, h, String.toList_ofList, List.append_assoc]
  exact (reads_mute hw.1).append (Reads.sign hchunks hn hw.2 hoperand)

/-! ## 2. Parts of a component -/

theorem printChunks_inBraces (chunks : List Chunk) :
    printChunks (inBraces chunks) = '{' :: (printChunks chunks ++ ['}']) := by
  have hopen : r"{".toList = ['{'] := by decide
  have hclose : r"}".toList = ['}'] := by decide
  simp [inBraces, hopen, hclose]

/-- Braces around chunks that do not begin like the panel. -/
theorem bears_inBraces {n : List Char} {chunks : List Chunk} {ms : List Mark}
    (hchunks : Bears (chunks ++ [.code r"}"]) ms) (hn : n <+: printChunks chunks)
    (hmute : mute n .code ['{'] = true) : Bears (inBraces chunks) ms := by
  refine hchunks.behind (hn.trans ?_) rfl hmute
  rw [printChunks_append]
  exact List.prefix_append _ _

/-- Braces add no mark if no sign begins at the opening one. -/
theorem Bears.braces {n : List Char} {chunks : List Chunk} {ms : List Mark}
    (hchunks : Bears chunks ms) (hn : n <+: printChunks chunks)
    (hmute : mute n .code ['{'] = true) : Bears (inBraces chunks) ms := by
  have hclose : Bears [.code r"}"] [] := bears_mute rfl (by decide)
  have hinside := hchunks.append hclose
  rw [List.append_nil] at hinside
  exact bears_inBraces hinside hn hmute

theorem quote_prefix_literal (v : String) : ['"'] <+: printChunks [.literal v] :=
  ⟨_, rfl⟩

/-- A literal in braces bears no mark. -/
theorem bears_content (v : String) : Bears (content v) [] :=
  (bears_literal v).braces (quote_prefix_literal v) (by decide)

/-- A word in front of code that ends words. -/
theorem Bears.word {word code : String} {c : Char} {chunks : List Chunk} {ms : List Mark}
    (hchunks : Bears (.code code :: chunks) ms) (hword : ∀ x ∈ word.toList, isWordChar x = true)
    (hcode : ∃ tail, code.toList = c :: tail) (hc : endsWords c = true) :
    Bears (.code word :: .code code :: chunks) ms := by
  obtain ⟨tail, htail⟩ := hcode
  rw [Bears, printChunks_code, htail] at hchunks
  rw [Bears, printChunks_code, printChunks_code, htail]
  exact Reads.word hchunks hword hc

/-- Properties of a style bear no mark, even where their keys are those of attributes. -/
theorem bears_propertyChunks (e : String × String) : Bears (propertyChunks e) [] := by
  have hcolon : Bears [.code ": "] [] := bears_mute rfl (by decide)
  have hvalue : Bears (.code ": " :: [.literal e.2]) [] := hcolon.cons (bears_literal e.2)
  rw [propertyChunks]
  split
  · rename_i h
    exact hvalue.word (c := ':') (fun _ => isWordChar_of_mem_bareName h) ⟨_, rfl⟩ (by decide)
  · exact (bears_literal e.1).cons hvalue

theorem bears_propertiesChunks : ∀ es : List (String × String), Bears (propertiesChunks es) []
  | [] => reads_nil
  | [e] => bears_propertyChunks e
  | e :: f :: es => by
    have hcomma : Bears [.code ", "] [] := bears_mute rfl (by decide)
    exact (bears_propertyChunks e).append (hcomma.cons (bears_propertiesChunks (f :: es)))

/-- A style bears no mark. -/
theorem Style.bears_chunks (s : Style) : Bears s.chunks [] := by
  have hempty : Bears [.code r"{}"] [] := bears_mute rfl (by decide)
  have hopen : Bears [.code r"{ "] [] := bears_mute rfl (by decide)
  have hclose : Bears [.code r" }"] [] := bears_mute rfl (by decide)
  rw [Style.chunks]
  split
  · exact hempty
  · exact (hopen.cons (bears_propertiesChunks s.entries)).append hclose

theorem Style.brace_prefix_chunks (s : Style) : ['{'] <+: printChunks s.chunks := by
  rw [Style.chunks]
  split
  · exact ⟨_, rfl⟩
  · exact ⟨_, rfl⟩

theorem brace_prefix_inBraces (chunks : List Chunk) :
    ['{'] <+: printChunks (inBraces chunks) := by
  rw [printChunks_inBraces]
  exact ⟨_, rfl⟩

/-- A style attribute bears no mark. -/
theorem bears_styleAttribute (s : Style) : Bears (styleAttribute s) [] :=
  (s.bears_chunks.braces s.brace_prefix_chunks (by decide)).behind (brace_prefix_inBraces _) rfl
    (by decide)

/-- An attribute that is no sign. -/
theorem bears_textAttribute {name : String} {cs : List Char} (h : name = String.ofList cs)
    (hcs : mute ['{'] .code (cs ++ ['=']) = true) (v : String) :
    Bears (textAttribute name v) [] :=
  (bears_content v).behind (brace_prefix_inBraces _) (append_eq_ofList h rfl) hcs

/-- A literal in the frame of a sign is its operand. -/
theorem Sign.operand_content {s : Sign} (hs : s.frame = some (['{'], ['}'])) (v : String)
    (rest : List Char) : s.operand (printChunks (content v) ++ rest) = some (literal v) := by
  simpa [content, printChunks_inBraces] using operand_literal hs v rest

/-- An attribute that is a sign. -/
theorem bears_signAttribute {s : Sign} {name : String} {cs : List Char}
    (h : name = String.ofList cs)
    (hs : s.text = cs ++ ['='] ∧ s.frame = some (['{'], ['}'])
      ∧ mute ['{'] .code s.text.tail = true) (v : String) :
    Bears (textAttribute name v) [⟨s, some (literal v)⟩] :=
  (bears_content v).sign (w := []) (brace_prefix_inBraces _) (Sign.operand_content hs.2.1 v)
    (by rw [List.nil_append, hs.1]; exact append_eq_ofList h rfl) ⟨rfl, hs.2.2⟩

/-- Where the data of the form is looked up the id is the operand. -/
theorem bears_formData (id : String) : Bears (formData id) [⟨.stored, some (literal id)⟩] := by
  have hclose : Bears [.code "]"] [] := bears_mute rfl (by decide)
  refine Bears.sign (w := []) (s := .stored) ((bears_literal id).cons hclose)
    (n := ['"']) ⟨_, rfl⟩ (fun rest => ?_) rfl ⟨rfl, by decide⟩
  have hbracket : "]".toList = [']'] := by decide
  simpa [hbracket] using Sign.operand_literal (s := .stored) rfl id rest

/-- Where a change is stored the id is the operand. -/
theorem bears_changeAttribute (id : String) :
    Bears (changeAttribute id) [⟨.changed, some (literal id)⟩] := by
  have hclose : Bears [.code r", e.target.value)}"] [] := bears_mute rfl (by decide)
  obtain ⟨cs, hcs⟩ : ∃ cs, r", e.target.value)}".toList = ',' :: cs := ⟨_, rfl⟩
  refine Bears.sign (w := r"onChange={e => ".toList) (s := .changed)
    ((bears_literal id).cons hclose) (n := ['"']) ⟨_, rfl⟩ (fun rest => ?_) rfl
    ⟨by decide, by decide⟩
  simpa [hcs] using Sign.operand_literal (s := .changed) rfl id (cs ++ rest)

/-- Whether an option is the stored value. -/
theorem bears_comparison (id option : String) :
    Bears (inBraces (formData id ++ [.code " === ", .literal option]))
      [⟨.stored, some (literal id)⟩, ⟨.compared, some (literal option)⟩] := by
  have hclose : Bears [.code r"}"] [] := bears_mute rfl (by decide)
  have hcompared : Bears (.code " === " :: [.literal option, .code r"}"])
      [⟨.compared, some (literal option)⟩] := by
    refine Bears.sign (w := [' ']) (s := .compared) ((bears_literal option).cons hclose)
      (n := ['"']) ⟨_, rfl⟩ (fun rest => ?_) rfl ⟨by decide, by decide⟩
    have hbrace : r"}".toList = ['}'] := by decide
    simpa [hbrace] using Sign.operand_literal (s := .compared) rfl option rest
  refine bears_inBraces (n := ['f']) ?_ ⟨_, rfl⟩ (by decide)
  rw [List.append_assoc]
  exact (bears_formData id).append hcompared

/-- An option is keyed by its index. -/
theorem bears_index (index : Nat) :
    Bears (.code "\n        <label key=" :: inBraces [.code (toString index)])
      [⟨.index, some (toString index).toList⟩] := by
  have hword : ∀ c ∈ (toString index).toList, isWordChar c = true :=
    fun _ => isWordChar_of_mem_toString
  have hbraces : Bears (inBraces [.code (toString index)]) [] := by
    rw [Bears, printChunks_inBraces, printChunks_code, printChunks_nil, List.append_nil]
    exact reads_braced_word hword
  refine hbraces.sign (w := "\n        <label ".toList) (s := .index) (brace_prefix_inBraces _)
    (fun rest => ?_) rfl ⟨by decide, by decide⟩
  have hoperand := operandAt_word hword (c := '}') (by decide) (by decide) rest
  simpa [printChunks_inBraces] using Sign.operand_eq (s := .index) rfl rest hoperand

/-- The start of a control of some sort. -/
theorem bears_control {code sort : String} {u v w : List Char}
    (h : code = String.ofList (u ++ (Sign.control.text ++ ('\n' :: v
      ++ (Sign.sort.text ++ (literal sort ++ w))))))
    (hmute : mute [] .code u = true ∧ mute [] .code ('\n' :: v) = true
      ∧ mute [] .code w = true) :
    Bears [.code code] [⟨.control, none⟩, ⟨.sort, some (literal sort)⟩] := by
  obtain ⟨hbefore, hindent, hafter⟩ := hmute
  have hsort : Reads (Sign.sort.text ++ (literal sort ++ w))
      [⟨.sort, some (literal sort)⟩] := by
    refine Reads.sign (n := ['"']) ((reads_literal sort).append (reads_mute hafter)) ⟨_, rfl⟩
      (by decide) fun rest => ?_
    simpa using Sign.operand_literal (s := .sort) rfl sort (w ++ rest)
  have hcontrol := Reads.sign (s := .control) (n := ['\n']) ((reads_mute hindent).append hsort)
    ⟨_, rfl⟩ (by decide) fun _ => Sign.operand_of_frame_eq_none rfl _
  exact bears_code h ((reads_mute hbefore).append hcontrol)

/-- The value of an input is no literal. -/
theorem bears_inputValue (id : String) :
    Bears (.code "\n          value=" :: inBraces (formData id ++ [.code " || ''"]))
      [⟨.value, none⟩, ⟨.stored, some (literal id)⟩] := by
  have hempty : Bears [.code " || ''"] [] := bears_mute rfl (by decide)
  have hstored := ((bears_formData id).append hempty).braces (n := ['f']) ⟨_, rfl⟩ (by decide)
  refine hstored.sign (w := "\n          ".toList) (s := .value) (brace_prefix_inBraces _)
    (fun rest => ?_) rfl ⟨by decide, by decide⟩
  obtain ⟨cs, hcs⟩ : ∃ cs, printChunks (inBraces (formData id ++ [.code " || ''"])) ++ rest
      = ['{'] ++ ("formData".toList ++ '[' :: cs) := ⟨_, rfl⟩
  rw [hcs]
  have hword : "formData".toList.all isWordChar = true := by decide
  refine Sign.operand_word_eq_none rfl (List.all_eq_true.1 hword) (by decide) fun h => ?_
  exact absurd (List.cons_prefix_cons.1 h).1 (by decide)

/-- The caption of an option is its own text. -/
theorem bears_caption (option : String) :
    Bears (.code "\n          />\n          " :: content option)
      [⟨.caption, some (literal option)⟩] :=
  (bears_content option).sign (w := "\n          ".toList) (s := .caption)
    (brace_prefix_inBraces _) (Sign.operand_content rfl option) rfl ⟨by decide, by decide⟩

/-! ## 3. Elements -/

/-- The marks of a text control. -/
def inputMarks (id : String) : List Mark :=
  [⟨.control, none⟩, ⟨.sort, some (literal "text")⟩, ⟨.value, none⟩,
   ⟨.stored, some (literal id)⟩, ⟨.changed, some (literal id)⟩]

/-- The marks of an option: one radio with the number and the text of the option. -/
def optionMarks (id : String) (index : Nat) (option : String) : List Mark :=
  [⟨.index, some (toString index).toList⟩,
   ⟨.control, none⟩, ⟨.sort, some (literal "radio")⟩, ⟨.name, some (literal id)⟩,
   ⟨.value, some (literal option)⟩, ⟨.stored, some (literal id)⟩,
   ⟨.compared, some (literal option)⟩, ⟨.changed, some (literal id)⟩,
   ⟨.caption, some (literal option)⟩]

/-- The marks of an element: its id, and then those of its controls. -/
def elementMarks (e : Element) : List Mark :=
  ⟨.element, some (literal e.id)⟩ ::
    match Display.ofKind e.kind with
    | .input => inputMarks e.id
    | .question => e.options.zipIdx.flatMap fun (option, index) => optionMarks e.id index option
    | .text | .button | .placeholder => []

/-- An option bears the marks of one option. -/
theorem bears_optionChunks (id : String) (index : Nat) (option : String) :
    Bears (optionChunks id index option) (optionMarks id index option) := by
  have hspace : Bears [.code " "] [] := bears_mute rfl (by decide)
  have hcontrol : Bears [.code ">\n          <input\n            type=\"radio\"\n            "]
      [⟨.control, none⟩, ⟨.sort, some (literal "radio")⟩] :=
    bears_control (u := ">\n          ".toList) (v := "            ".toList)
      (w := "\n            ".toList) rfl (by decide)
  have hline : Bears [.code "\n            "] [] := bears_mute rfl (by decide)
  have hname : Bears (textAttribute "name" id) [⟨.name, some (literal id)⟩] :=
    bears_signAttribute rfl (by decide) id
  have hvalue : Bears (textAttribute "value" option) [⟨.value, some (literal option)⟩] :=
    bears_signAttribute rfl (by decide) option
  have hchecked : Bears (.code "\n            checked="
        :: inBraces (formData id ++ [.code " === ", .literal option]))
      [⟨.stored, some (literal id)⟩, ⟨.compared, some (literal option)⟩] :=
    (bears_comparison id option).behind (brace_prefix_inBraces _) rfl (by decide)
  have hclose : Bears [.code "\n        </label>"] [] := bears_mute rfl (by decide)
  simp only [optionChunks, List.cons_append, List.append_assoc]
  exact (bears_index index).append <| hspace.cons <| (bears_styleAttribute labelStyle).append <|
    hcontrol.cons <| hname.append <| hline.cons <| hvalue.append <| hchecked.append <|
    hline.cons <| (bears_changeAttribute id).append <| hline.cons <|
    (bears_styleAttribute radioStyle).append <| (bears_caption option).append hclose

/-- The options bear their marks one after another, each with its index. -/
theorem bears_optionsChunks (id : String) (index : Nat) (options : List String) :
    Bears (optionsChunks id index options)
      ((options.zipIdx index).flatMap fun (option, index) => optionMarks id index option) := by
  induction options generalizing index with
  | nil => exact reads_nil
  | cons o os ih => exact (bears_optionChunks id index o).append (ih (index + 1))

/-- The beginning of a box is marked with the id of its element. -/
theorem bears_openBox (id : String) {attributes : List Chunk} (h : Bears attributes []) :
    Bears (openBox id attributes) [⟨.element, some (literal id)⟩] := by
  have hopen : Bears [.code "      <div "] [] := bears_mute rfl (by decide)
  have hid : Bears (textAttribute "data-element-id" id) [⟨.element, some (literal id)⟩] :=
    bears_signAttribute rfl (by decide) id
  have hspace : Bears [.code " "] [] := bears_mute rfl (by decide)
  have hend : Bears [.code ">\n"] [] := bears_mute rfl (by decide)
  exact (hopen.cons hid).append (hspace.cons h) |>.append hend

theorem bears_closeBox : Bears closeBox [] :=
  bears_mute rfl (by decide)

/-- A box around one literal. -/
theorem bears_literalBox (id text : String) {attributes : List Chunk} (h : Bears attributes []) :
    Bears (openBox id attributes ++ .code "        " :: content text ++ .code "\n" :: closeBox)
      [⟨.element, some (literal id)⟩] := by
  have hindent : Bears [.code "        "] [] := bears_mute rfl (by decide)
  have hline : Bears [.code "\n"] [] := bears_mute rfl (by decide)
  simp only [List.append_assoc]
  exact (bears_openBox id h).append <| hindent.cons <| (bears_content text).append <|
    hline.cons bears_closeBox

/-- What is not rendered is marked with the id and with nothing else. -/
theorem bears_placeholder (id kind message : String) :
    Bears (Fragment.placeholder id kind message).chunks [⟨.element, some (literal id)⟩] := by
  have hkind : Bears (textAttribute "data-placeholder-for" kind) [] :=
    bears_textAttribute rfl (by decide) kind
  have hspace : Bears [.code " "] [] := bears_mute rfl (by decide)
  exact bears_literalBox id message
    (hkind.append (hspace.cons (bears_styleAttribute placeholderStyle)))

/-- An input is marked with the id, and its value and its changes are. -/
theorem bears_input (id label hint : String) :
    Bears (Fragment.input id label hint).chunks
      (⟨.element, some (literal id)⟩ :: inputMarks id) := by
  have hlabel : Bears [.code "        <label "] [] := bears_mute rfl (by decide)
  have henter : Bears [.code ">"] [] := bears_mute rfl (by decide)
  have hcontrol : Bears [.code "</label>\n        <input\n          type=\"text\"\n          "]
      [⟨.control, none⟩, ⟨.sort, some (literal "text")⟩] :=
    bears_control (u := "</label>\n        ".toList) (v := "          ".toList)
      (w := "\n          ".toList) rfl (by decide)
  have hhint : Bears (textAttribute "placeholder" hint) [] :=
    bears_textAttribute rfl (by decide) hint
  have hspace : Bears [.code "\n          "] [] := bears_mute rfl (by decide)
  have hclose : Bears (.code "\n        />\n" :: closeBox) [] :=
    bears_closeBox.behind (n := "      <".toList) ⟨_, rfl⟩ rfl (by decide)
  simp only [Fragment.chunks, List.cons_append, List.append_assoc]
  exact (bears_openBox id (bears_styleAttribute fieldStyle)).append <|
    hlabel.cons <| (bears_styleAttribute labelStyle).append <|
    henter.cons <| (bears_content label).append <| hcontrol.cons <| hhint.append <|
    (bears_inputValue id).append <| hspace.cons <| (bears_changeAttribute id).append <|
    hspace.cons <| (bears_styleAttribute inputStyle).append hclose

/-- A button is marked with the id alone; it changes no value. -/
theorem bears_button (id label : String) (style : Style) :
    Bears (Fragment.button id label style).chunks [⟨.element, some (literal id)⟩] := by
  have hopen : Bears [.code "      <button\n        "] [] := bears_mute rfl (by decide)
  have hid : Bears (textAttribute "data-element-id" id) [⟨.element, some (literal id)⟩] :=
    bears_signAttribute rfl (by decide) id
  have hclick : Bears [.code clickAttribute] [] :=
    bears_mute rfl (by decide)
  have henter : Bears [.code "\n      >\n        "] [] := bears_mute rfl (by decide)
  have hclose : Bears [.code "\n      </button>"] [] := bears_mute rfl (by decide)
  simp only [Fragment.chunks, List.cons_append, List.append_assoc]
  exact hopen.cons <| hid.append <| hclick.cons <| (bears_styleAttribute style).append <|
    henter.cons <| (bears_content label).append hclose

/-- A question is marked with the id, and then come the marks of its options. -/
theorem bears_question (id label : String) (options : List String) :
    Bears (Fragment.question id label options).chunks (⟨.element, some (literal id)⟩
      :: options.zipIdx.flatMap fun (option, index) => optionMarks id index option) := by
  have hprompt : Bears [.code "        <p "] [] := bears_mute rfl (by decide)
  have henter : Bears [.code ">"] [] := bears_mute rfl (by decide)
  have hclose : Bears [.code "</p>"] [] := bears_mute rfl (by decide)
  have hline : Bears [.code "\n"] [] := bears_mute rfl (by decide)
  have hoptions := (bears_optionsChunks id 0 options).append (hline.cons bears_closeBox)
  rw [List.append_nil, List.append_nil] at hoptions
  simp only [Fragment.chunks, List.cons_append, List.append_assoc]
  exact (bears_openBox id (bears_styleAttribute fieldStyle)).append <|
    hprompt.cons <| (bears_styleAttribute promptStyle).append <|
    henter.cons <| (bears_content label).append <| hclose.cons hoptions

/-- The fragment of an element has the marks of the element. -/
theorem bears_ofElement (e : Element) : Bears (Fragment.ofElement e).chunks (elementMarks e) := by
  rw [ofElement_eq, elementMarks]
  cases Display.ofKind e.kind with
  | text => exact bears_literalBox e.id e.label (bears_styleAttribute _)
  | input => exact bears_input e.id e.label _
  | button => exact bears_button e.id e.label _
  | question => exact bears_question e.id e.label e.options
  | placeholder => exact bears_placeholder e.id _ _

/-! ## 4. Components -/

/-- The frame in front of the elements bears no mark. -/
theorem bears_codeBeforeBox : Bears [.code codeBeforeBox] [] := by
  exact bears_mute (String.ofList_toList ..).symm (by decide +kernel)

/-- Nor does the frame behind the panel. -/
theorem bears_codeAfterPanel : Bears [.code codeAfterPanel] [] := by
  exact bears_mute (String.ofList_toList ..).symm (by decide +kernel)

/-- The fragments bear the marks of the elements, in their order. -/
theorem bears_elements (es : List Element) :
    Bears ((es.map Fragment.ofElement).flatMap fun f => .code "\n" :: f.chunks)
      (es.flatMap elementMarks) := by
  have hline : Bears [.code "\n"] [] := bears_mute rfl (by decide)
  induction es with
  | nil => exact reads_nil
  | cons e es ih => exact (hline.cons (bears_ofElement e)).append ih

/-- The marks of a component are those of its elements in their order, and that of the panel. -/
theorem bears_layout (d : Description) :
    Bears (layout d).chunks (d.elements.flatMap elementMarks ++ [⟨.panel, none⟩]) := by
  have hword : ∀ c ∈ (name d.title).toList, isWordChar c = true :=
    fun _ => isWordChar_of_mem_name
  have hbefore : Bears [.code codeBeforeName] [] := bears_mute rfl (by decide)
  have hname := bears_codeBeforeBox.word hword exists_codeBeforeBox (by decide)
  have htitle : Bears [.code ">\n      <h2 "] [] := bears_mute rfl (by decide)
  have henter : Bears [.code ">"] [] := bears_mute rfl (by decide)
  have hclose : Bears [.code "</h2>"] [] := bears_mute rfl (by decide)
  have hend : Bears [.code ";\n"] [] := bears_mute rfl (by decide)
  have hexport := hend.word (c := ';') hword ⟨_, rfl⟩ (by decide)
  have hpanel : Bears [.code codeBeforePanel] [⟨.panel, none⟩] := by
    have hsign : Reads (Sign.panel.text ++ "\n        <div ".toList) [⟨.panel, none⟩] :=
      Reads.sign (n := ['\n']) (reads_mute (by decide)) ⟨_, rfl⟩ (by decide)
        fun _ => Sign.operand_of_frame_eq_none rfl _
    exact bears_code rfl ((reads_mute (w := "\n      ".toList) (by decide)).append hsign)
  have hresults := hpanel.cons <| (bears_styleAttribute resultsStyle).append <|
    bears_codeAfterPanel.cons hexport
  simp only [Layout.chunks, layout, List.cons_append, List.nil_append, List.append_assoc]
  exact hbefore.cons <| hname.append <|
    (bears_styleAttribute _).append <| htitle.cons <| (bears_styleAttribute headingStyle).append <|
    henter.cons <| (bears_content d.title).append <| hclose.cons <|
    (bears_elements d.elements).append hresults

/-- Outside its literals a component has the marks of its elements and of the panel, and no other.
-/
theorem marks_source (d : Description) :
    marks .code (layout d).source.code.toList
      = d.elements.flatMap elementMarks ++ [⟨.panel, none⟩] := by
  have hmarks := bears_layout d []
  rw [List.append_nil] at hmarks
  rw [Layout.source, String.toList_ofList, hmarks]
  exact List.append_nil _

/-! ## 5. Ids -/

/-- Whether the operand of a sign is the id of an element. -/
def Sign.holdsId : Sign → Bool
  | element | name | stored | changed => true
  | control | sort | index | value | compared | caption | panel => false

/-- The operands of the elements in code, in their order. -/
def elementOperands (cs : List Char) : List (Option (List Char)) :=
  ((marks .code cs).filter (·.sign == .element)).map Mark.operand

/-- All that holds an id among the marks of an element holds the id of this element. -/
theorem operand_of_mem_elementMarks {e : Element} {m : Mark} (hm : m ∈ elementMarks e)
    (hsign : m.sign.holdsId = true) : m.operand = some (literal e.id) := by
  rw [elementMarks] at hm
  rcases List.mem_cons.1 hm with rfl | hm
  · rfl
  cases hdisplay : Display.ofKind e.kind with
  | input =>
    have hall : ∀ m ∈ inputMarks e.id, m.sign.holdsId = true → m.operand = some (literal e.id) := by
      simp [inputMarks, Sign.holdsId]
    exact hall m (by simpa [hdisplay] using hm) hsign
  | question =>
    have hall (option : String) (index : Nat) : ∀ m ∈ optionMarks e.id index option,
        m.sign.holdsId = true → m.operand = some (literal e.id) := by
      simp [optionMarks, Sign.holdsId]
    rw [hdisplay] at hm
    obtain ⟨⟨option, index⟩, -, hm⟩ := List.mem_flatMap.1 hm
    exact hall option index m hm hsign
  | text | button | placeholder => simp [hdisplay] at hm

/-- The marks of an element have its own id once. -/
theorem filter_elementMarks (e : Element) :
    (elementMarks e).filter (·.sign == .element) = [⟨.element, some (literal e.id)⟩] := by
  rw [elementMarks]
  cases Display.ofKind e.kind with
  | question =>
    have hoption (p : String × Nat) :
        (optionMarks e.id p.2 p.1).filter (·.sign == .element) = [] := rfl
    simp [List.filter_flatMap, hoption]
  | input => rfl
  | text | button | placeholder => rfl

/-- The elements are marked with their ids, in their order. -/
theorem elementOperands_source (d : Description) :
    elementOperands (layout d).source.code.toList = d.ids.map fun id => some (literal id) := by
  have hpanel : [(⟨.panel, none⟩ : Mark)].filter (·.sign == .element) = [] := rfl
  rw [elementOperands, marks_source, List.filter_append, hpanel, List.append_nil,
    List.filter_flatMap]
  simp only [filter_elementMarks, ← List.map_eq_flatMap, List.map_map, Description.ids]
  rfl

/-- **Every element is bound once, in order, to its own id**: the marks of the component of a
description whose ids differ are those of its elements, one element after the other, and then that
of the panel. The operands of the elements are the literals of the ids in their order, which are
told apart by their texts, and all that holds an id between an element and the next holds the id of
this element. -/
theorem emit_marks {d : Description} (h : d.ids.Nodup) :
    ∃ source, emit d = .ok source
      ∧ marks .code source.code.toList = d.elements.flatMap elementMarks ++ [⟨.panel, none⟩]
      ∧ elementOperands source.code.toList = d.ids.map (fun id => some (literal id))
      ∧ (∀ e ∈ d.elements, ∀ m ∈ elementMarks e,
        m.sign.holdsId = true → m.operand = some (literal e.id))
      ∧ (elementOperands source.code.toList).map (fun operand => operand.bind literalValue?)
        = d.ids.map some
      ∧ ((elementOperands source.code.toList).map
        fun operand => operand.bind literalValue?).Nodup := by
  have hvalues : (elementOperands (layout d).source.code.toList).map
      (fun operand => operand.bind literalValue?) = d.ids.map some := by
    simp [elementOperands_source, literalValue?_literal]
  refine ⟨_, emit_eq_ok h, marks_source d, elementOperands_source d,
    fun e _ m hm => operand_of_mem_elementMarks hm, hvalues, ?_⟩
  rw [hvalues]
  exact List.Pairwise.map _ (fun _ _ hne heq => hne (Option.some.inj heq)) h

theorem emit_marks_hostileWidget :
    hostileWidget.ids.Nodup ∧ ∃ source, emit hostileWidget = .ok source
      ∧ marks .code source.code.toList
        = hostileWidget.elements.flatMap elementMarks ++ [⟨.panel, none⟩]
      ∧ elementOperands source.code.toList
        = hostileWidget.ids.map (fun id => some (literal id))
      ∧ (∀ e ∈ hostileWidget.elements, ∀ m ∈ elementMarks e,
        m.sign.holdsId = true → m.operand = some (literal e.id))
      ∧ (elementOperands source.code.toList).map (fun operand => operand.bind literalValue?)
        = hostileWidget.ids.map some
      ∧ ((elementOperands source.code.toList).map
        fun operand => operand.bind literalValue?).Nodup := by
  have hids : hostileWidget.ids.Nodup := by decide
  exact ⟨hids, emit_marks hids⟩

end Widgetry.Component
