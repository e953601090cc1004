import Widgetry.Proofs.Component.Emission
import Widgetry.Proofs.Component.Nesting

/-!
Emitted components are well formed: every literal ends on the line on which it starts, and outside
of literals brackets, tags and elements are closed by their own kind in properly nested order
(`emit_balanced`). A piece of a component is looked at alone, with nothing open around it, and says
where it takes a reader (`Moves`). What is open around the piece stays as it is, so pieces that
leave nothing open can stand anywhere (`Steady.within`), and a component is put together from them.

No text of a document takes part in this. A literal is emptied before brackets are looked for, so
the reader sees fixed code, words and pairs of quotes; and fixed code is read once, by evaluation.
The two places where a piece does open something are the frame of a component and the boxes of its
fragments, and each is matched with the piece that closes it.
-/

namespace Widgetry.Component

open Nesting (inside)

/-! ## 1. Chunks that move a reader -/

/-- Chunks that end their own literals, and take a reader of hollowed code from one place to
another. -/
structure Moves (s : Nesting) (chunks : List Chunk) (t : Nesting) : Prop where
  closed : ∀ c ∈ chunks, c.closed = true
  run : s.run (skeleton chunks) = some t

/-- Chunks that close all that they open, and nothing else. -/
def Steady (chunks : List Chunk) : Prop :=
  Moves (inside []) chunks (inside [])

/-- Code moves from place to place, and so does code behind code. -/
theorem Moves.append {s t u : Nesting} {a b : List Chunk} (ha : Moves s a t) (hb : Moves t b u) :
    Moves s (a ++ b) u where
  closed := List.forall_mem_append.2 ⟨ha.closed, hb.closed⟩
  run := by
    rw [skeleton_append, Nesting.run_append, ha.run]
    exact hb.run

theorem Moves.cons {s t u : Nesting} {c : Chunk} {cs : List Chunk} (hc : Moves s [c] t)
    (hcs : Moves t cs u) : Moves s (c :: cs) u :=
  hc.append hcs

/-- What is open around chunks stays open. -/
theorem Moves.under {s t : Nesting} {chunks : List Chunk} (h : Moves s chunks t)
    (outer : List Opening) : Moves (s.under outer) chunks (t.under outer) :=
  ⟨h.closed, Nesting.run_under h.run outer⟩

/-- Steady chunks can stand where anything is open. -/
theorem Steady.within {chunks : List Chunk} (h : Steady chunks) {opened : List Opening} :
    Moves (inside opened) chunks (inside opened) :=
  h.under opened

/-- Nothing at all leaves the place as it is. -/
theorem steady_nil : Steady [] :=
  ⟨fun _ hc => absurd hc List.not_mem_nil, rfl⟩

/-- Steady code behind steady code is steady. -/
theorem Steady.append {a b : List Chunk} (ha : Steady a) (hb : Steady b) : Steady (a ++ b) :=
  Moves.append ha hb

theorem Steady.cons {c : Chunk} {cs : List Chunk} (hc : Steady [c]) (hcs : Steady cs) :
    Steady (c :: cs) :=
  Moves.cons hc hcs

/-- A chunk of code that is written out character by character; evaluation goes faster on
characters than on a text. -/
theorem moves_code {s t : Nesting} {code : String} {cs : List Char} (h : code = String.ofList cs)
    (hcs : literalsEnd .code cs = true ∧ s.run (hollow .code cs) = some t) :
    Moves s [.code code] t := by
  subst h
  constructor
  · simpa [Chunk.closed, Chunk.print] using hcs.1
  · simpa [skeleton, Chunk.print] using hcs.2

theorem append_eq_ofList {s t : String} {cs ds : List Char} (hs : s = String.ofList cs)
    (ht : t = String.ofList ds) : s ++ t = String.ofList (cs ++ ds) := by
  rw [hs, ht, String.ofList_append]

/-- A literal is steady, whatever its text is: it ends on its line, and what it holds is blanked. -/
theorem steady_literal (s : String) : Steady [.literal s] := by
  constructor
  · simp
  · simp only [skeleton, List.flatMap_cons, List.flatMap_nil, List.append_nil, Chunk.print,
      hollow_literal]
    decide

/-- Words do not hold quotes. -/
theorem isQuote_of_isWordChar {c : Char} (h : isWordChar c = true) : isQuote c = false :=
  of_ascii (p := fun d => isWordChar d = true → isQuote d = false) (by decide)
    (toNat_lt_of_isWordChar h) h

/-- The characters of words open and close nothing. -/
theorem next_of_isWordChar {c : Char} (h : isWordChar c = true) :
    (inside []).next c = some (inside []) :=
  of_ascii (p := fun d => isWordChar d = true → (inside []).next d = some (inside []))
    (by decide) (toNat_lt_of_isWordChar h) h

/-- Words neither open nor close anything. -/
theorem run_of_isWordChar {cs : List Char} (h : ∀ c ∈ cs, isWordChar c = true) :
    (inside []).run cs = some (inside []) := by
  induction cs with
  | nil => rfl
  | cons c cs ih =>
    rw [Nesting.run, next_of_isWordChar (h c List.mem_cons_self)]
    exact ih fun d hd => h d (List.mem_cons_of_mem _ hd)

theorem steady_word {s : String} (h : ∀ c ∈ s.toList, isWordChar c = true) :
    Steady [.code s] := by
  have hplain : ∀ c ∈ s.toList, isQuote c = false := fun c hc => isQuote_of_isWordChar (h c hc)
  constructor
  · simpa [Chunk.closed, Chunk.print] using literalsEnd_of_plain hplain
  · simpa [skeleton, Chunk.print, hollow_of_plain hplain] using run_of_isWordChar h

/-! ## 2. Parts of a component -/

/-- Braces may stand at the start of content and behind an attribute's name. -/
theorem moves_inBraces {p : Pending} (hp : p = .nothing ∨ p = .equals) {chunks : List Chunk}
    (h : Steady chunks) : Moves ⟨p, []⟩ (inBraces chunks) (inside []) := by
  have hopen : Moves ⟨p, []⟩ [.code r"{"] (inside [.bracket '{']) := by
    rcases hp with rfl | rfl <;> exact moves_code rfl (by decide)
  have hclose : Moves (inside [.bracket '{']) [.code r"}"] (inside []) :=
    moves_code rfl (by decide)
  exact (hopen.cons h.within).append hclose

/-- Braces around steady code match. -/
theorem steady_inBraces {chunks : List Chunk} (h : Steady chunks) : Steady (inBraces chunks) :=
  moves_inBraces (.inl rfl) h

/-- A property is steady, whether its key is a bare name or a literal. -/
theorem steady_propertyChunks (e : String × String) : Steady (propertyChunks e) := by
  have hcolon : Steady [.code ": "] := moves_code rfl (by decide)
  rw [propertyChunks]
  refine Steady.cons ?_ (hcolon.cons (steady_literal e.2))
  split
  · rename_i h
    exact steady_word fun _ => isWordChar_of_mem_bareName h
  · exact steady_literal e.1

theorem steady_propertiesChunks : ∀ es : List (String × String), Steady (propertiesChunks es)
  | [] => steady_nil
  | [e] => steady_propertyChunks e
  | e :: f :: es => by
    have hcomma : Steady [.code ", "] := moves_code rfl (by decide)
    exact (steady_propertyChunks e).append (hcomma.cons (steady_propertiesChunks (f :: es)))

/-- A style is steady as an object, the empty one too. -/
theorem Style.steady_chunks (s : Style) : Steady s.chunks := by
  have hempty : Steady [.code r"{}"] := moves_code rfl (by decide)
  have hopen : Moves (inside []) [.code r"{ "] (inside [.bracket '{']) :=
    moves_code rfl (by decide)
  have hclose : Moves (inside [.bracket '{']) [.code r" }"] (inside []) :=
    moves_code rfl (by decide)
  rw [Style.chunks]
  split
  · exact hempty
  · exact (hopen.cons (steady_propertiesChunks s.entries).within).append hclose

/-- An attribute is steady if its name is: the brace comes right behind the equals sign, where a
value is expected. -/
theorem steady_textAttribute {name : String} {cs : List Char} (h : name = String.ofList cs)
    (hcs : literalsEnd .code (cs ++ ['=']) = true
      ∧ (inside []).run (hollow .code (cs ++ ['='])) = some ⟨.equals, []⟩) (value : String) :
    Steady (textAttribute name value) := by
  have hname : Moves (inside []) [.code (name ++ "=")] ⟨.equals, []⟩ :=
    moves_code (append_eq_ofList h rfl) hcs
  exact hname.cons (moves_inBraces (.inr rfl) (steady_literal value))

theorem steady_styleAttribute (s : Style) : Steady (styleAttribute s) := by
  have hname : Moves (inside []) [.code "style="] ⟨.equals, []⟩ := moves_code rfl (by decide)
  exact hname.cons (moves_inBraces (.inr rfl) s.steady_chunks)

/-- A literal between tags is steady. -/
theorem steady_content (s : String) : Steady (content s) :=
  steady_inBraces (steady_literal s)

theorem steady_formData (id : String) : Steady (formData id) := by
  have hopen : Moves (inside []) [.code "formData["] (inside [.bracket '[']) :=
    moves_code rfl (by decide)
  have hclose : Moves (inside [.bracket '[']) [.code "]"] (inside []) :=
    moves_code rfl (by decide)
  exact hopen.cons ((steady_literal id).within.cons hclose)

/-- The handler of a change is steady: the angle bracket of its arrow ends no tag, since it stands
inside braces. -/
theorem steady_changeAttribute (id : String) : Steady (changeAttribute id) := by
  have hopen : Moves (inside []) [.code r"onChange={e => handleInputChange("]
      (inside [.bracket '(', .bracket '{']) := moves_code rfl (by decide)
  have hclose : Moves (inside [.bracket '(', .bracket '{']) [.code r", e.target.value)}"]
      (inside []) := moves_code rfl (by decide)
  exact hopen.cons ((steady_literal id).within.cons hclose)

/-! ## 3. Fragments -/

/-- The tag of a box. -/
def divTag : List Char := ['d', 'i', 'v']

/-- The tag of a label. -/
def labelTag : List Char := ['l', 'a', 'b', 'e', 'l']

/-- The tag of a button. -/
def buttonTag : List Char := ['b', 'u', 't', 't', 'o', 'n']

/-- The tag of the text of a question. -/
def promptTag : List Char := ['p']

/-- The tag of the title. -/
def titleTag : List Char := ['h', '2']

/-- An opened box waits for its closing tag. -/
theorem moves_openBox (id : String) {attributes : List Chunk} (h : Steady attributes) :
    Moves (inside []) (openBox id attributes) (inside [.element divTag]) := by
  have hopen : Moves (inside []) [.code "      <div "] (inside [.tag divTag]) :=
    moves_code rfl (by decide)
  have hid : Steady (textAttribute "data-element-id" id) :=
    steady_textAttribute rfl (by decide) id
  have hspace : Steady [.code " "] := moves_code rfl (by decide)
  have hend : Moves (inside [.tag divTag]) [.code ">\n"] (inside [.element divTag]) :=
    moves_code rfl (by decide)
  exact ((hopen.cons hid.within).append (hspace.cons h).within).append hend

/-- The end of a box closes the element that its beginning opened. -/
theorem moves_closeBox : Moves (inside [.element divTag]) closeBox (inside []) :=
  moves_code rfl (by decide)

/-- An option is steady: its label is closed and its input closes itself. -/
theorem steady_optionChunks (id : String) (index : Nat) (option : String) :
    Steady (optionChunks id index option) := by
  have hopen : Moves (inside []) [.code "\n        <label key="] ⟨.equals, [.tag labelTag]⟩ :=
    moves_code rfl (by decide)
  have hindex : Moves ⟨.equals, []⟩ (inBraces [.code (toString index)]) (inside []) :=
    moves_inBraces (.inr rfl) (steady_word fun _ => isWordChar_of_mem_toString)
  have hspace : Steady [.code " "] := moves_code rfl (by decide)
  have hinput : Moves (inside [.tag labelTag])
      [.code ">\n          <input\n            type=\"radio\"\n            "]
      (inside [.tag inputTag, .element labelTag]) := moves_code rfl (by decide)
  have hline : Steady [.code "\n            "] := moves_code rfl (by decide)
  have hname : Steady (textAttribute "name" id) := steady_textAttribute rfl (by decide) id
  have hvalue : Steady (textAttribute "value" option) :=
    steady_textAttribute rfl (by decide) option
  have hchecked : Moves (inside []) [.code "\n            checked="] ⟨.equals, []⟩ :=
    moves_code rfl (by decide)
  have hequal : Steady [.code " === "] := moves_code rfl (by decide)
  have hwhether : Moves ⟨.equals, []⟩ (inBraces (formData id ++ [.code " === ", .literal option]))
      (inside []) :=
    moves_inBraces (.inr rfl) ((steady_formData id).append (hequal.cons (steady_literal option)))
  have hfinish : Moves (inside [.tag inputTag, .element labelTag])
      [.code "\n          />\n          "] (inside [.element labelTag]) :=
    moves_code rfl (by decide)
  have hclose : Moves (inside [.element labelTag]) [.code "\n        </label>"] (inside []) :=
    moves_code rfl (by decide)
  simp only [optionChunks, List.cons_append, List.append_assoc]
  exact hopen.cons <| (hindex.under [.tag labelTag]).append <|
    hspace.within.cons <| (steady_styleAttribute labelStyle).within.append <|
    hinput.cons <| hname.within.append <|
    hline.within.cons <| hvalue.within.append <|
    (Moves.cons hchecked hwhether).under [.tag inputTag, .element labelTag] |>.append <|
    hline.within.cons <| (steady_changeAttribute id).within.append <|
    hline.within.cons <| (steady_styleAttribute radioStyle).within.append <|
    hfinish.cons <| (steady_content option).within.append hclose

/-- So are all options of a question, by induction on the options. -/
theorem steady_optionsChunks (id : String) (index : Nat) (options : List String) :
    Steady (optionsChunks id index options) := by
  induction options generalizing index with
  | nil => exact steady_nil
  | cons o os ih => exact (steady_optionChunks id index o).append (ih (index + 1))

/-- A box around one literal. -/
theorem steady_literalBox (id text : String) {attributes : List Chunk} (h : Steady attributes) :
    Steady (openBox id attributes
      ++ .code "        " :: content text ++ .code "\n" :: closeBox) := by
  have hindent : Steady [.code "        "] := moves_code rfl (by decide)
  have hline : Steady [.code "\n"] := moves_code rfl (by decide)
  simp only [List.append_assoc]
  exact (moves_openBox id h).append <| hindent.within.cons <|
    (steady_content text).within.append <| hline.within.cons moves_closeBox

theorem steady_text (id body : String) (style : Style) :
    Steady (Fragment.text id body style).chunks :=
  steady_literalBox id body (steady_styleAttribute style)

theorem steady_placeholder (id kind message : String) :
    Steady (Fragment.placeholder id kind message).chunks := by
  have hkind : Steady (textAttribute "data-placeholder-for" kind) :=
    steady_textAttribute rfl (by decide) kind
  have hspace : Steady [.code " "] := moves_code rfl (by decide)
  exact steady_literalBox id message
    (hkind.append (hspace.cons (steady_styleAttribute placeholderStyle)))

/-- A text input is steady; the input closes itself. -/
theorem steady_input (id label hint : String) : Steady (Fragment.input id label hint).chunks := by
  have hbox := moves_openBox id (steady_styleAttribute fieldStyle)
  have hlabel : Moves (inside [.element divTag]) [.code "        <label "]
      (inside [.tag labelTag, .element divTag]) := moves_code rfl (by decide)
  have henter : Moves (inside [.tag labelTag, .element divTag]) [.code ">"]
      (inside [.element labelTag, .element divTag]) := moves_code rfl (by decide)
  have hinput : Moves (inside [.element labelTag, .element divTag])
      [.code "</label>\n        <input\n          type=\"text\"\n          "]
      (inside [.tag inputTag, .element divTag]) := moves_code rfl (by decide)
  have hhint : Steady (textAttribute "placeholder" hint) :=
    steady_textAttribute rfl (by decide) hint
  have hvalue : Moves (inside []) [.code "\n          value="] ⟨.equals, []⟩ :=
    moves_code rfl (by decide)
  have hempty : Steady [.code " || ''"] := moves_code rfl (by decide)
  have hstored : Moves ⟨.equals, []⟩ (inBraces (formData id ++ [.code " || ''"])) (inside []) :=
    moves_inBraces (.inr rfl) ((steady_formData id).append hempty)
  have hspace : Steady [.code "\n          "] := moves_code rfl (by decide)
  have hfinish : Moves (inside [.tag inputTag, .element divTag]) [.code "\n        />\n"]
      (inside [.element divTag]) := moves_code rfl (by decide)
  simp only [Fragment.chunks, List.cons_append, List.append_assoc]
  exact hbox.append <| hlabel.cons <| (steady_styleAttribute labelStyle).within.append <|
    henter.cons <| (steady_content label).within.append <|
    hinput.cons <| hhint.within.append <|
    ((hvalue.cons hstored).under [.tag inputTag, .element divTag]).append <|
    hspace.within.cons <| (steady_changeAttribute id).within.append <|
    hspace.within.cons <| (steady_styleAttribute inputStyle).within.append <|
    hfinish.cons moves_closeBox

/-- A button is steady. -/
theorem steady_button (id label : String) (style : Style) :
    Steady (Fragment.button id label style).chunks := by
  have hopen : Moves (inside []) [.code "      <button\n        "] (inside [.tag buttonTag]) :=
    moves_code rfl (by decide)
  have hid : Steady (textAttribute "data-element-id" id) :=
    steady_textAttribute rfl (by decide) id
  have hclick : Steady [.code clickAttribute] :=
    moves_code rfl (by decide)
  have henter : Moves (inside [.tag buttonTag]) [.code "\n      >\n        "]
      (inside [.element buttonTag]) := moves_code rfl (by decide)
  have hclose : Moves (inside [.element buttonTag]) [.code "\n      </button>"] (inside []) :=
    moves_code rfl (by decide)
  simp only [Fragment.chunks, List.cons_append, List.append_assoc]
  exact hopen.cons <| hid.within.append <|
    hclick.within.cons <| (steady_styleAttribute style).within.append <|
    henter.cons <| (steady_content label).within.append hclose

/-- A question is steady, whatever its options are. -/
theorem steady_question (id label : String) (options : List String) :
    Steady (Fragment.question id label options).chunks := by
  have hbox := moves_openBox id (steady_styleAttribute fieldStyle)
  have hprompt : Moves (inside [.element divTag]) [.code "        <p "]
      (inside [.tag promptTag, .element divTag]) := moves_code rfl (by decide)
  have henter : Moves (inside [.tag promptTag, .element divTag]) [.code ">"]
      (inside [.element promptTag, .element divTag]) := moves_code rfl (by decide)
  have hclose : Moves (inside [.element promptTag, .element divTag]) [.code "</p>"]
      (inside [.element divTag]) := moves_code rfl (by decide)
  have hline : Steady [.code "\n"] := moves_code rfl (by decide)
  simp only [Fragment.chunks, List.cons_append, List.append_assoc]
  exact hbox.append <| hprompt.cons <| (steady_styleAttribute promptStyle).within.append <|
    henter.cons <| (steady_content label).within.append <|
    hclose.cons <| (steady_optionsChunks id 0 options).within.append <|
    hline.within.cons moves_closeBox

/-- Every fragment is steady. -/
theorem Fragment.steady_chunks (f : Fragment) : Steady f.chunks := by
  cases f with
  | text id body style => exact steady_text id body style
  | input id label hint => exact steady_input id label hint
  | button id label style => exact steady_button id label style
  | question id label options => exact steady_question id label options
  | placeholder id kind message => exact steady_placeholder id kind message

/-! ## 4. Components -/

/-- In front of the outer box two brackets are open, and its tag has begun. -/
theorem moves_codeBeforeBox :
    Moves (inside []) [.code codeBeforeBox]
      (inside [.tag divTag, .bracket '(', .bracket '{']) := by
  exact moves_code (String.ofList_toList ..).symm (by decide +kernel)

/-- Behind the style of the panel everything is closed that is still open. -/
theorem moves_codeAfterPanel :
    Moves (inside [.tag divTag, .bracket '(', .bracket '{', .element divTag, .bracket '(',
        .bracket '{'])
      [.code codeAfterPanel] (inside []) := by
  exact moves_code (String.ofList_toList ..).symm (by decide +kernel)

theorem steady_fragments (fragments : List Fragment) :
    Steady (fragments.flatMap fun f => .code "\n" :: f.chunks) := by
  have hline : Steady [.code "\n"] := moves_code rfl (by decide)
  induction fragments with
  | nil => exact steady_nil
  | cons f fs ih => exact (hline.cons f.steady_chunks).append ih

/-- A component whose name is a word closes all that it opens. -/
theorem Layout.steady_chunks {l : Layout} (h : ∀ c ∈ l.name.toList, isWordChar c = true) :
    Steady l.chunks := by
  have hbefore : Steady [.code codeBeforeName] := moves_code rfl (by decide)
  have hname : Steady [.code l.name] := steady_word h
  have htitle : Moves (inside [.tag divTag]) [.code ">\n      <h2 "]
      (inside [.tag titleTag, .element divTag]) := moves_code rfl (by decide)
  have henter : Moves (inside [.tag titleTag]) [.code ">"] (inside [.element titleTag]) :=
    moves_code rfl (by decide)
  have hclose : Moves (inside [.element titleTag]) [.code "</h2>"] (inside []) :=
    moves_code rfl (by decide)
  have hpanel : Moves (inside []) [.code codeBeforePanel]
      (inside [.tag divTag, .bracket '(', .bracket '{']) := moves_code rfl (by decide)
  have hend : Steady [.code ";\n"] := moves_code rfl (by decide)
  -- what is open when the elements are shown: the function, its result and the outer box
  let outer : List Opening := [.element divTag, .bracket '(', .bracket '{']
  simp only [Layout.chunks, List.cons_append, List.nil_append, List.append_assoc]
  exact hbefore.cons <| hname.cons <| moves_codeBeforeBox.cons <|
    (steady_styleAttribute l.container).within.append <|
    (htitle.under [.bracket '(', .bracket '{']).cons <|
    (steady_styleAttribute headingStyle).within.append <|
    (henter.under outer).cons <| (steady_content l.title).within.append <|
    (hclose.under outer).cons <| (steady_fragments l.fragments).within.append <|
    (hpanel.under outer).cons <| (steady_styleAttribute resultsStyle).within.append <|
    moves_codeAfterPanel.cons <| hname.cons hend

/-- A component as a whole is steady. -/
theorem steady_layout (d : Description) : Steady (layout d).chunks :=
  Layout.steady_chunks fun _ => isWordChar_of_mem_name

/-- Every literal of a component's source ends on the line on which it starts. -/
theorem literalsEnd_source (d : Description) :
    literalsEnd .code (layout d).source.code.toList = true := by
  rw [Layout.source, String.toList_ofList]
  exact literalsEnd_printChunks (steady_layout d).closed

/-- The code of a component with its literals emptied. -/
theorem hollow_source (d : Description) :
    hollow .code (layout d).source.code.toList = skeleton (layout d).chunks := by
  rw [Layout.source, String.toList_ofList]
  exact hollow_printChunks (steady_layout d).closed

/-- The last line of a component exports it. -/
theorem exists_export (l : Layout) :
    ∃ before, l.source.code = before ++ "export default " ++ l.name ++ ";\n" := by
  obtain ⟨chunks, hchunks⟩ : ∃ chunks, l.chunks
      = chunks ++ [.code codeAfterPanel, .code l.name, .code ";\n"] := ⟨_, rfl⟩
  obtain ⟨before, hbefore⟩ : ∃ before, codeAfterPanel = before ++ "export default " := ⟨_, rfl⟩
  refine ⟨String.ofList (printChunks chunks) ++ before, ?_⟩
  apply String.ext
  simp [Layout.source, hchunks, printChunks, Chunk.print, hbefore, String.append_assoc]

/-- **Every emitted component is well formed**: a description whose ids differ has a component, in
whose source every literal ends on its line, brackets match, tags and elements are properly nested
and closed, and the last line exports the component by its name. -/
theorem emit_balanced {d : Description} (h : d.ids.Nodup) :
    ∃ source, emit d = .ok source
      ∧ literalsEnd .code source.code.toList = true
      ∧ bracketsMatch [] (hollow .code source.code.toList) = true
      ∧ (inside []).run (hollow .code source.code.toList) = some (inside [])
      ∧ source.name = name d.title
      ∧ ∃ before, source.code = before ++ "export default " ++ name d.title ++ ";\n" := by
  have hrun : (inside []).run (hollow .code (layout d).source.code.toList) = some (inside []) := by
    rw [hollow_source]
    exact (steady_layout d).run
  have hmatch := Nesting.bracketsMatch_of_run hrun []
  rw [List.append_nil] at hmatch
  exact ⟨_, emit_eq_ok h, literalsEnd_source d, hmatch, hrun, rfl, exists_export (layout d)⟩

/-- A document with every sort of element, whose texts try to break out of their literals. -/
def hostileWidget : Description :=
  { Description.blank .form r#"Evil "title" {with} 'quotes' </script>"# with
    elements :=
      [{ Element.plain .text "t'1" r#"It's a {trap} " ) ] }"# with
         style := .ofList [("font-size", r#"1em"}"#)] },
       { Element.plain .input "in\"put" "<b>bold</b>" with placeholder := some "</div>\n\\" },
       { Element.plain .question r"q}" "Line\nbreak\u2028sep" with
         options := ["'", "\\\"", "</label>"] },
       Element.plain .button "b" "\\",
       Element.plain (.other "\"><script>") "c" "*/"] }

theorem emit_balanced_hostileWidget :
    hostileWidget.ids.Nodup ∧ ∃ source, emit hostileWidget = .ok source
      ∧ literalsEnd .code source.code.toList = true
      ∧ bracketsMatch [] (hollow .code source.code.toList) = true
      ∧ (inside []).run (hollow .code source.code.toList) = some (inside [])
      ∧ source.name = name hostileWidget.title
      ∧ ∃ before,
        source.code = before ++ "export default " ++ name hostileWidget.title ++ ";\n" := by
  have hids : hostileWidget.ids.Nodup := by decide
  exact ⟨hids, emit_balanced hids⟩

end Widgetry.Component
