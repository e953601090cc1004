import Widgetry.Component.Embed
import Widgetry.Proofs.Component.Comment
import Widgetry.Proofs.Component.Quotation

/-!
Embed snippets keep what they are given in its place (`embed_sealed`). There are three places: an
attribute value, which a reader of pages turns back into the container's id; the first line of the
script, a comment, which is all that the title has influence on; and the address of the bundle, a
literal on the fourth line. In none of them can a text end its place early: the attribute has
neither quotes nor angle brackets, and the script has seven lines whatever the texts are, and
nothing that would end it before its end.
-/

namespace Widgetry.Component

open Text (isSeparator)

/-! ## 1. Attribute values -/

/-- The character that a decimal reference stands for, and what follows it; its ampersand has been
read. -/
def reference? : List Char → Option (Char × List Char)
  | '#' :: cs =>
    match cs.takeWhile Char.isDigit, cs.dropWhile Char.isDigit with
    | d :: ds, ';' :: rest =>
      some (Char.ofNat ((d :: ds).foldl (fun n d => n * 10 + (d.toNat - '0'.toNat)) 0), rest)
    | _, _ => none
  | _ => none

theorem length_of_reference? {cs rest : List Char} {c : Char} (h : reference? cs = some (c, rest)) :
    rest.length < cs.length := by
  unfold reference? at h
  split at h
  · rename_i cs
    split at h
    · rename_i hdrop
      obtain ⟨-, rfl⟩ := Prod.mk.inj (Option.some.inj h)
      have hlength := (List.dropWhile_sublist Char.isDigit (l := cs)).length_le
      rw [hdrop] at hlength
      simp only [List.length_cons] at hlength ⊢
      omega
    · simp at h
  · simp at h

/-- The text of an attribute value: decimal references stand for their characters. Other references
are not read, so a value that has a text has none. -/
def attributeText? : List Char → Option (List Char)
  | [] => some []
  | c :: cs =>
    if c == '&' then
      match _h : reference? cs with
      | some (d, rest) => (attributeText? rest).map (d :: ·)
      | none => none
    else (attributeText? cs).map (c :: ·)
termination_by cs => cs.length
decreasing_by
  · exact Nat.lt_succ_of_lt (length_of_reference? _h)
  · simp

/-- The characters that are special in attribute values. -/
def htmlForms : List (Char × List Char) :=
  [('"', ['#', '3', '4', ';']), ('&', ['#', '3', '8', ';']), ('\'', ['#', '3', '9', ';']),
   ('<', ['#', '6', '0', ';']), ('>', ['#', '6', '2', ';'])]

/-- A character is written as a reference, or as it is. -/
theorem htmlChar_cases (c : Char) :
    (∃ form, (c, form) ∈ htmlForms ∧ htmlChar c = '&' :: form)
      ∨ c ∉ ['"', '&', '\'', '<', '>'] ∧ htmlChar c = [c] := by
  unfold htmlChar htmlForms
  repeat' split
  all_goals simp_all

/-- A character is read from its form in an attribute. -/
theorem attributeText?_htmlChar (c : Char) (cs : List Char) :
    attributeText? (htmlChar c ++ cs) = (attributeText? cs).map (c :: ·) := by
  rcases htmlChar_cases c with ⟨form, hform, hc⟩ | ⟨hplain, hc⟩
  · have href : reference? (form ++ cs) = some (c, cs) := by
      simp only [htmlForms, List.mem_cons, Prod.mk.injEq, List.not_mem_nil, or_false] at hform
      rcases hform with ⟨rfl, rfl⟩ | ⟨rfl, rfl⟩ | ⟨rfl, rfl⟩ | ⟨rfl, rfl⟩ | ⟨rfl, rfl⟩ <;> rfl
    rw [hc, List.cons_append, attributeText?, if_pos (by decide)]
    split <;> simp_all
  · have hne : c ≠ '&' := by
      rintro rfl
      exact hplain (by decide)
    rw [hc, List.singleton_append, attributeText?, if_neg (by simpa using hne)]

/-- An escaped text is read as itself. -/
theorem attributeText?_escaped (cs : List Char) :
    attributeText? (cs.flatMap htmlChar) = some cs := by
  induction cs with
  | nil => rw [List.flatMap_nil, attributeText?]
  | cons c cs ih => rw [List.flatMap_cons, attributeText?_htmlChar, ih, Option.map_some]

/-- Quotes and angle brackets never stand in an attribute value. -/
theorem not_mem_of_mem_escaped {c : Char} {cs : List Char} (h : c ∈ cs.flatMap htmlChar) :
    c ∉ ['"', '\'', '<', '>'] := by
  obtain ⟨d, -, hd⟩ := List.mem_flatMap.1 h
  rcases htmlChar_cases d with ⟨form, hform, heq⟩ | ⟨hplain, heq⟩
  · rw [heq] at hd
    have hforms : ∀ p ∈ htmlForms,
        ('&' :: p.2).all (fun e => !(['"', '\'', '<', '>'].contains e)) = true := by decide
    simpa using List.all_eq_true.1 (hforms _ hform) c hd
  · rw [heq, List.mem_singleton] at hd
    subst hd
    simp_all

/-! ## 2. Lines of scripts -/

/-- The lines of a script; every character that may end a line does. -/
def scriptLines : List Char → List (List Char)
  | [] => []
  | c :: cs =>
    if isLineBreak c then [] :: scriptLines cs
    else
      match scriptLines cs with
      | [] => [[c]]
      | l :: ls => (c :: l) :: ls

/-- A line ends at the first line break. -/
theorem scriptLines_append {l : List Char} (h : ∀ c ∈ l, isLineBreak c = false) (cs : List Char) :
    scriptLines (l ++ '\n' :: cs) = l :: scriptLines cs := by
  induction l with
  | nil => rw [List.nil_append, scriptLines, if_pos (by decide)]
  | cons c l ih =>
    obtain ⟨hc, hl⟩ := List.forall_mem_cons.1 h
    rw [List.cons_append, scriptLines, ih hl, if_neg (by simp [hc])]

/-- Lines with a line break behind each. -/
def joinLines (lines : List (List Char)) : List Char :=
  lines.flatMap (· ++ ['\n'])

/-- Lines without line breaks in them are found again. -/
theorem scriptLines_joinLines {lines : List (List Char)}
    (h : ∀ l ∈ lines, ∀ c ∈ l, isLineBreak c = false) : scriptLines (joinLines lines) = lines := by
  induction lines with
  | nil => rfl
  | cons l ls ih =>
    obtain ⟨hl, hls⟩ := List.forall_mem_cons.1 h
    rw [joinLines, List.flatMap_cons, List.append_assoc, List.singleton_append,
      scriptLines_append hl]
    exact congrArg (l :: ·) (ih hls)

theorem getLast?_joinLines {lines : List (List Char)} (h : lines ≠ []) :
    (joinLines lines).getLast? = some '\n' := by
  have hlast : joinLines lines = joinLines lines.dropLast ++ (lines.getLast h ++ ['\n']) := by
    conv => lhs; rw [← List.dropLast_concat_getLast h]
    simp [joinLines]
  rw [hlast, ← List.append_assoc, List.getLast?_concat]

/-- What is in no line is in no script, unless it spans a line break. -/
theorem not_infix_joinLines {n : List Char} (hn : n ∈ specials) {lines : List (List Char)}
    (h : ∀ l ∈ lines, ¬n <:+: l) : ¬n <:+: joinLines lines := by
  have hbreak : '\n' ∉ n := (by decide : ∀ n ∈ specials, '\n' ∉ n) n hn
  induction lines with
  | nil => exact not_infix_of_not_mem hn List.not_mem_nil
  | cons l ls ih =>
    obtain ⟨hl, hls⟩ := List.forall_mem_cons.1 h
    intro hinfix
    rw [joinLines, List.flatMap_cons, List.append_assoc, List.singleton_append] at hinfix
    rcases infix_or_infix_of_append_cons hbreak hinfix with hinfix | hinfix
    · exact hl hinfix
    · exact ih hls hinfix

/-! ## 3. Snippets -/

/-- The script of a snippet line by line, with a remark and a literal that it is to hold. -/
def embedLines (remark address : List Char) : List (List Char) :=
  [remark, r"  (function() {".toList,
   "    var script = document.createElement('script');".toList,
   "    script.src = ".toList ++ address ++ ";".toList, "    script.async = true;".toList,
   "    document.head.appendChild(script);".toList, r"  })();".toList]

/-- Pieces of a script that begin and end within its lines, cut where the lines end. -/
theorem append_joinLines
    {front remark before source address after rest : List Char}
    {line₂ line₃ closing line₅ line₆ line₇ : List Char}
    (hbefore : before = '\n' :: (line₂ ++ '\n' :: (line₃ ++ '\n' :: source)))
    (hafter : after
      = closing ++ '\n' :: (line₅ ++ '\n' :: (line₆ ++ '\n' :: (line₇ ++ '\n' :: rest)))) :
    front ++ remark ++ before ++ address ++ after
      = front ++ joinLines [remark, line₂, line₃, source ++ address ++ closing, line₅, line₆, line₇]
        ++ rest := by
  subst hbefore hafter
  simp [joinLines]

/-- A snippet is a container and a script of seven lines. -/
theorem embedCode_eq (title containerId scriptUrl : String) :
    embedCode title containerId scriptUrl
      = "<div id=\"".toList ++ containerId.toList.flatMap htmlChar
        ++ "\"></div>\n<script>\n".toList
        ++ joinLines (embedLines (embedComment title) (literal scriptUrl))
        ++ "</script>\n".toList :=
  append_joinLines (by decide +kernel) (by decide +kernel)

/-- Whether a text neither breaks its line nor has an angle bracket. -/
def inline (cs : List Char) : Bool :=
  cs.all fun c => !isLineBreak c && c != '<'

/-- Text that neither breaks its line nor has an angle bracket. -/
def Inline (cs : List Char) : Prop :=
  ∀ c ∈ cs, isLineBreak c = false ∧ c ≠ '<'

theorem inline_iff {cs : List Char} : Inline cs ↔ inline cs = true := by
  simp [Inline, inline]

instance (cs : List Char) : Decidable (Inline cs) :=
  decidable_of_iff _ inline_iff.symm

/-- What holds of the remark and of inline text holds of all lines of a script whose literal is
inline. -/
theorem forall_mem_embedLines {P : List Char → Prop} {remark address : List Char}
    (hremark : P remark) (haddress : Inline address) (hinline : ∀ l, Inline l → P l) :
    ∀ l ∈ embedLines remark address, P l := by
  have hfixed : ∀ l ∈ embedLines [] [], Inline l := by decide +kernel
  simp only [embedLines, List.forall_mem_cons, List.append_nil] at hfixed ⊢
  obtain ⟨-, h₂, h₃, h₄, h₅, h₆, h₇, -⟩ := hfixed
  have hsource : Inline ("    script.src = ".toList ++ address ++ ";".toList) := by
    obtain ⟨hbefore, hafter⟩ := List.forall_mem_append.1 h₄
    exact List.forall_mem_append.2 ⟨List.forall_mem_append.2 ⟨hbefore, haddress⟩, hafter⟩
  exact ⟨hremark, hinline _ h₂, hinline _ h₃, hinline _ hsource, hinline _ h₅, hinline _ h₆,
    hinline _ h₇, List.forall_mem_nil P⟩

/-- A literal is inline, whatever its text is. -/
theorem inline_literal (s : String) : Inline (literal s) := by
  intro c hc
  obtain ⟨hcontrol, hspelled⟩ := inert_of_mem_literal hc
  have hseparator : isSeparator c = false := by
    simp only [isSpelled, Bool.or_eq_false_iff] at hspelled
    exact hspelled.1.2
  have hne : c ≠ '\n' ∧ c ≠ '\r' ∧ c ≠ '<' := by
    refine ⟨?_, ?_, ?_⟩ <;> rintro rfl
    · exact absurd hcontrol (by decide)
    · exact absurd hcontrol (by decide)
    · exact absurd hspelled (by decide)
  simp [isLineBreak, hseparator, hne]

/-! ## 4. The first line -/

/-- The first line names the title, unless the title leaves nothing to say. -/
theorem embedComment_cases (title : String) :
    comment title = [] ∧ embedComment title = "  // Widget embed code".toList
      ∨ comment title ≠ []
        ∧ embedComment title
          = "  // Widget embed code".toList ++ " for ".toList ++ comment title := by
  unfold embedComment
  cases comment title with
  | nil => exact .inl ⟨rfl, List.append_nil _⟩
  | cons c cs => exact .inr ⟨List.cons_ne_nil c cs, (List.append_assoc ..).symm⟩

/-- A comment has no line break. -/
theorem isLineBreak_of_mem_comment {s : String} {c : Char} (h : c ∈ comment s) :
    isLineBreak c = false := by
  obtain ⟨hcontrol, hseparator⟩ := inline_of_mem_comment h
  have hne : c ≠ '\n' ∧ c ≠ '\r' := by
    constructor <;> rintro rfl <;> exact absurd hcontrol (by decide)
  simp [isLineBreak, hseparator, hne]

/-- Nor does the first line have one, whatever the title is. -/
theorem isLineBreak_of_mem_embedComment {title : String} {c : Char} (h : c ∈ embedComment title) :
    isLineBreak c = false := by
  have hfixed : Inline ("  // Widget embed code".toList ++ " for ".toList) := by decide +kernel
  obtain ⟨hopening, -⟩ := List.forall_mem_append.1 hfixed
  rcases embedComment_cases title with ⟨-, heq⟩ | ⟨-, heq⟩
  · exact (hopening c (heq ▸ h)).1
  · rcases List.mem_append.1 (heq ▸ h) with h | h
    · exact (hfixed c h).1
    · exact isLineBreak_of_mem_comment h

/-- Inline text holds neither an end tag nor the beginning of a comment of the page. -/
theorem not_infix_of_inline {n : List Char} (hn : n ∈ specials) {l : List Char} (h : Inline l) :
    ¬n <:+: l :=
  not_infix_of_not_mem hn fun hmem => (h '<' hmem).2 rfl

/-- The first line holds neither of them, whatever the title is. -/
theorem not_infix_embedComment {n : List Char} (hn : n ∈ specials) (title : String) :
    ¬n <:+: embedComment title := by
  have hspace : ' ' ∉ n := (by decide : ∀ n ∈ specials, ' ' ∉ n) n hn
  have hopening : Inline "  // Widget embed code".toList := by decide +kernel
  have hfor : Inline ("  // Widget embed code".toList ++ " for".toList) := by decide +kernel
  have hsplit : "  // Widget embed code".toList ++ " for ".toList
      = ("  // Widget embed code".toList ++ " for".toList) ++ [' '] := by decide +kernel
  rcases embedComment_cases title with ⟨-, heq⟩ | ⟨-, heq⟩
  · rw [heq]
    exact not_infix_of_inline hn hopening
  · rw [heq, hsplit, List.append_assoc, List.singleton_append]
    intro h
    rcases infix_or_infix_of_append_cons hspace h with h | h
    · exact not_infix_of_inline hn hfor h
    · exact not_infix_comment hn title h

/-! ## 5. The whole snippet -/

/-- Slashes at the end of an address are cut off, all of them. -/
theorem exists_dropTrailing (s : String) :
    ∃ slashes, s.toList = (Text.dropTrailing '/' s).toList ++ slashes ∧ (∀ c ∈ slashes, c = '/')
      ∧ (Text.dropTrailing '/' s).toList.getLast? ≠ some '/' := by
  refine ⟨(s.toList.reverse.takeWhile (· == '/')).reverse, ?_, ?_, ?_⟩
  · rw [Text.dropTrailing, String.toList_ofList, ← List.reverse_append,
      List.takeWhile_append_dropWhile, List.reverse_reverse]
  · intro c hc
    exact beq_iff_eq.1 (List.all_eq_true.1 List.all_takeWhile c (List.mem_reverse.1 hc))
  · rw [Text.dropTrailing, String.toList_ofList, List.getLast?_reverse]
    have hhead := List.head?_dropWhile_not (· == '/') s.toList.reverse
    intro h
    rw [h] at hhead
    simp at hhead

/-- **Nothing breaks out of a snippet.** Whatever the widget's id and the address of the bundles
are, there are an attribute value and a literal such that for every title the snippet is a container
with this value as its id and a script of seven lines, the fourth of which sets this literal. The
value has neither quotes nor angle brackets, and is read as the container's id; the literal is read
as the address without the slashes at its end, with the id behind it. The title shows on the first
line alone, and nothing in the script ends it or opens a comment of the page. -/
theorem embed_sealed (widgetId cdn : String) :
    ∃ value address : List Char,
      (∀ c ∈ value, c ∉ ['"', '\'', '<', '>'])
      ∧ attributeText? value = some ("storyweave-widget-" ++ widgetId).toList
      ∧ (∃ base slashes, cdn.toList = base.toList ++ slashes ∧ (∀ c ∈ slashes, c = '/')
        ∧ base.toList.getLast? ≠ some '/'
        ∧ literalValue? address = some (base ++ "/widgets/" ++ widgetId ++ ".js"))
      ∧ ∀ title, ∃ remark script : List Char,
        (Embed.of title widgetId cdn).code.toList
          = "<div id=\"".toList ++ value ++ "\"></div>\n<script>\n".toList ++ script
            ++ "</script>\n".toList
        ∧ ¬['<', '/'] <:+: script ∧ ¬['<', '!', '-', '-'] <:+: script
        ∧ script.getLast? = some '\n'
        ∧ scriptLines script
          = [remark, r"  (function() {".toList,
             "    var script = document.createElement('script');".toList,
             "    script.src = ".toList ++ address ++ ";".toList,
             "    script.async = true;".toList,
             "    document.head.appendChild(script);".toList, r"  })();".toList]
        ∧ (comment title = [] ∧ remark = "  // Widget embed code".toList
          ∨ comment title ≠ []
            ∧ remark = "  // Widget embed code".toList ++ " for ".toList ++ comment title) := by
  obtain ⟨slashes, hcdn, hslashes, hbase⟩ := exists_dropTrailing cdn
  let url : String := Text.dropTrailing '/' cdn ++ "/widgets/" ++ widgetId ++ ".js"
  refine ⟨("storyweave-widget-" ++ widgetId).toList.flatMap htmlChar, literal url,
    fun c => not_mem_of_mem_escaped, attributeText?_escaped _,
    ⟨_, slashes, hcdn, hslashes, hbase, literalValue?_literal url⟩, fun title => ?_⟩
  have hlines {P : List Char → Prop} (hremark : P (embedComment title))
      (hinline : ∀ l, Inline l → P l) : ∀ l ∈ embedLines (embedComment title) (literal url), P l :=
    forall_mem_embedLines hremark (inline_literal url) hinline
  have hinfix {n : List Char} (hn : n ∈ specials) :
      ¬n <:+: joinLines (embedLines (embedComment title) (literal url)) :=
    not_infix_joinLines hn <|
      hlines (not_infix_embedComment hn title) fun _ => not_infix_of_inline hn
  refine ⟨embedComment title, joinLines (embedLines (embedComment title) (literal url)), ?_,
    hinfix (by decide), hinfix (by decide), ?_, ?_, embedComment_cases title⟩
  · exact (String.toList_ofList ..).trans (embedCode_eq title _ url)
  · exact getLast?_joinLines (List.cons_ne_nil _ _)
  · exact scriptLines_joinLines <|
      hlines (fun _ => isLineBreak_of_mem_embedComment) fun _ h c hc => (h c hc).1

end Widgetry.Component
