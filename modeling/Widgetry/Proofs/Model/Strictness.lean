import Widgetry.Proofs.Model.Content

/-!
The two ways to read a reply. Both trim the reply and try the whole of it first, so that white space
around a reply matters to neither, and both call exactly the blank replies empty. They part only
where the whole reply is no description: strictly this is the end of it, and where prose is allowed
the span of braces in the reply decides, if there is one (`readContent_modes`).

The span is looked for in the trimmed reply, and is that of the reply as it came: white space has no
braces.
-/

namespace Widgetry

open Text (isBlank trim trimLeft trimRight isBlankText exists_trim trim_append_of_blank
  mem_of_mem_trimLeft mem_of_mem_trimRight)

open Json (mapError_eq_ok_iff mapError_eq_error_iff)

/-! ## 1. The span of braces -/

/-- The span of a text from its first opening to its last closing brace. -/
structure BraceSpan (cs span : List Char) : Prop where
  braces : InBraces span
  around : ∃ before after, cs = before ++ span ++ after ∧ '{' ∉ before ∧ '}' ∉ after

/-- Behind the last closing brace there is none. -/
theorem exists_throughLastBrace (cs : List Char) :
    ∃ after, cs = throughLastBrace cs ++ after ∧ '}' ∉ after := by
  refine ⟨(cs.reverse.takeWhile (· != '}')).reverse, ?_, ?_⟩
  · rw [throughLastBrace, ← List.reverse_append, List.takeWhile_append_dropWhile,
      List.reverse_reverse]
  · intro hmem
    simpa using List.mem_takeWhile_imp (List.mem_reverse.1 hmem)

/-- If there is a closing brace the cut ends with it. -/
theorem getLast?_throughLastBrace {cs : List Char} (h : throughLastBrace cs ≠ []) :
    (throughLastBrace cs).getLast? = some '}' := by
  unfold throughLastBrace at h ⊢
  have hhead := List.head?_dropWhile_not (· != '}') cs.reverse
  rw [List.getLast?_reverse]
  cases hd : cs.reverse.dropWhile (· != '}') with
  | nil => simp [hd] at h
  | cons c rest => simpa [hd] using hhead

/-- The span is what lies between the first opening and the last closing brace. -/
theorem throughLastBrace_of_embeddedSpan {cs span : List Char} (h : embeddedSpan cs = some span) :
    throughLastBrace (cs.dropWhile (· != '{')) ≠ []
      ∧ throughLastBrace (cs.dropWhile (· != '{')) = span := by
  simp only [embeddedSpan] at h
  split at h
  · cases h
  · rename_i hne
    exact ⟨by simpa using hne, Option.some.inj h⟩

/-- The span that is looked for is the one from the first opening to the last closing brace. -/
theorem embeddedSpan_eq_some_iff {cs span : List Char} :
    embeddedSpan cs = some span ↔ BraceSpan cs span := by
  constructor
  · intro h
    obtain ⟨hne, rfl⟩ := throughLastBrace_of_embeddedSpan h
    obtain ⟨after, happend, hafter⟩ := exists_throughLastBrace (cs.dropWhile (· != '{'))
    refine ⟨⟨?_, getLast?_throughLastBrace hne⟩, cs.takeWhile (· != '{'), after, ?_, ?_, hafter⟩
    · have hhead := List.head?_dropWhile_not (· != '{') cs
      cases hspan : throughLastBrace (cs.dropWhile (· != '{')) with
      | nil => exact absurd hspan hne
      | cons c rest =>
        rw [happend, hspan] at hhead
        simpa using hhead
    · rw [List.append_assoc, ← happend, List.takeWhile_append_dropWhile]
    · intro hmem
      simpa using List.mem_takeWhile_imp hmem
  · rintro ⟨hbraces, before, after, rfl, hbefore, hafter⟩
    exact hbraces.embeddedSpan_append hbefore hafter

/-- Trimming a text leaves its span of braces. -/
theorem braceSpan_trim_iff {cs span : List Char} : BraceSpan (trim cs) span ↔ BraceSpan cs span := by
  have hbrace : isBlank '{' = false ∧ isBlank '}' = false := by decide
  constructor
  · rintro ⟨hbraces, before, after, heq, hbefore, hafter⟩
    obtain ⟨front, back, hfront, hback, hcs⟩ := exists_trim cs
    refine ⟨hbraces, front ++ before, after ++ back, ?_, ?_, ?_⟩
    · rw [heq] at hcs
      rw [hcs]
      simp only [List.append_assoc]
    · intro hmem
      rcases List.mem_append.1 hmem with hmem | hmem
      · exact absurd (hfront _ hmem) (by simp [hbrace.1])
      · exact hbefore hmem
    · intro hmem
      rcases List.mem_append.1 hmem with hmem | hmem
      · exact hafter hmem
      · exact absurd (hback _ hmem) (by simp [hbrace.2])
  · rintro ⟨hbraces, before, after, rfl, hbefore, hafter⟩
    refine ⟨hbraces, trimLeft before, trimRight after, hbraces.trim_append, ?_, ?_⟩
    · exact fun hmem => hbefore (mem_of_mem_trimLeft hmem)
    · exact fun hmem => hafter (mem_of_mem_trimRight hmem)

/-- A text has a span of braces exactly if a closing brace follows an opening one somewhere. -/
theorem exists_braceSpan_iff {cs : List Char} :
    (∃ span, BraceSpan cs span) ↔ ['{', '}'].Sublist cs := by
  constructor
  · rintro ⟨span, hbraces, before, after, rfl, -, -⟩
    obtain ⟨rest, hrest⟩ := hbraces.exists_cons
    obtain ⟨front, hfront⟩ := hbraces.exists_concat
    have hclose : '}' ∈ rest := by
      have hmem : '}' ∈ span := by simp [hfront]
      rw [hrest] at hmem
      exact (List.mem_cons.1 hmem).resolve_left (by decide)
    have hspan : ['{', '}'].Sublist span := by
      rw [hrest]
      exact (List.singleton_sublist.2 hclose).cons_cons '{'
    exact (hspan.trans (List.sublist_append_right before span)).trans
      (List.sublist_append_left _ after)
  · intro h
    obtain ⟨front, back, rfl, hopen, hclose⟩ := List.cons_sublist_iff.1 h
    have hclose : '}' ∈ back := List.singleton_sublist.1 hclose
    have hfound : throughLastBrace ((front ++ back).dropWhile (· != '{')) ≠ [] := by
      have hne : front.dropWhile (· != '{') ≠ [] := by
        intro hnil
        simpa using List.dropWhile_eq_nil_iff.1 hnil '{' hopen
      rw [List.dropWhile_append, if_neg (by simpa using hne)]
      intro hnil
      obtain ⟨after, happend, hafter⟩ :=
        exists_throughLastBrace (front.dropWhile (· != '{') ++ back)
      rw [hnil, List.nil_append] at happend
      exact hafter (happend ▸ List.mem_append_right _ hclose)
    refine ⟨throughLastBrace ((front ++ back).dropWhile (· != '{')), ?_⟩
    rw [← embeddedSpan_eq_some_iff, embeddedSpan, if_neg (by simpa using hfound)]

/-! ## 2. The two ways -/

/-- What is wrong with a document, as a failure of the model. -/
def refusal (e : Json.Error) : ModelError :=
  .invalidJson e.text

variable {content : String}

/-- White space around the content makes no difference. -/
theorem readContent_congr (strictness : Strictness) {content' : String}
    (h : trim content'.toList = trim content.toList) :
    readContent strictness content' = readContent strictness content := by
  simp only [readContent, h]

/-- Blank content is an empty reply, however strictly it is read. -/
theorem readContent_of_blank (strictness : Strictness) (h : isBlankText content = true) :
    readContent strictness content = .error .emptyResponse := by
  simp [readContent, Text.isBlankText_iff.1 h]

/-- Strictly the whole of a reply that is not blank is read. -/
theorem readContent_strict_eq (hbody : trim content.toList ≠ []) :
    readContent .strict content = (Description.parse (Text.trimmed content)).mapError refusal := by
  simp only [readContent, List.isEmpty_iff, hbody, if_false, Text.trimmed]
  cases Description.parse (String.ofList (trim content.toList)) <;> rfl

/-- Where prose is allowed and the whole of a reply is no description, its braces decide. -/
theorem readContent_embedded_eq (hbody : trim content.toList ≠ []) {whole : Json.Error}
    (hwhole : Description.parse (Text.trimmed content) = .error whole) :
    readContent .embedded content
      = match embeddedSpan (trim content.toList) with
        | none => .error (refusal whole)
        | some span => (Description.parse (String.ofList span)).mapError refusal := by
  rw [Text.trimmed] at hwhole
  simp only [readContent, List.isEmpty_iff, hbody, if_false, hwhole]
  cases embeddedSpan (trim content.toList) with
  | none => rfl
  | some span =>
    dsimp only
    cases Description.parse (String.ofList span) <;> rfl

/-- A reply that is not blank is refused only for what is wrong with a document. -/
theorem exists_of_readContent_error {strictness : Strictness} {e : ModelError}
    (hbody : trim content.toList ≠ []) (h : readContent strictness content = .error e) :
    ∃ problem, refusal problem = e := by
  cases strictness with
  | strict =>
    rw [readContent_strict_eq hbody] at h
    exact (mapError_eq_error_iff.1 h).imp fun _ h => h.2
  | embedded =>
    cases hwhole : Description.parse (Text.trimmed content) with
    | ok d =>
      rw [readContent_of_parse_ok .embedded hwhole hbody] at h
      cases h
    | error whole =>
      rw [readContent_embedded_eq hbody hwhole] at h
      split at h
      · exact ⟨whole, Except.error.inj h⟩
      · exact (mapError_eq_error_iff.1 h).imp fun _ h => h.2

/-- And nothing else is. -/
theorem readContent_eq_emptyResponse_iff {strictness : Strictness} :
    readContent strictness content = .error .emptyResponse ↔ isBlankText content = true := by
  refine ⟨fun h => ?_, readContent_of_blank strictness⟩
  apply Classical.byContradiction
  intro hblank
  obtain ⟨problem, hproblem⟩ := exists_of_readContent_error (mt Text.isBlankText_iff.2 hblank) h
  cases hproblem

theorem trim_ne_nil_of_readContent {strictness : Strictness} {d : Description}
    (h : readContent strictness content = .ok d) : trim content.toList ≠ [] := by
  intro hnil
  rw [readContent_of_blank strictness (Text.isBlankText_iff.2 hnil)] at h
  cases h

/-- What is read strictly is read, without a look at the braces. -/
theorem readContent_embedded_of_strict {d : Description} (h : readContent .strict content = .ok d) :
    readContent .embedded content = .ok d := by
  have hbody := trim_ne_nil_of_readContent h
  rw [readContent_strict_eq hbody, mapError_eq_ok_iff] at h
  exact readContent_of_parse_ok .embedded h hbody

section NoDescription

variable {whole : Json.Error} (hbody : trim content.toList ≠ [])
  (hwhole : Description.parse (Text.trimmed content) = .error whole)

include hbody hwhole

/-- Content of which no description is read directly is read from its span, and is refused for what
is wrong with the span. -/
theorem readContent_of_braceSpan {span : List Char} (hspan : BraceSpan content.toList span) :
    readContent .embedded content
      = (Description.parse (String.ofList span)).mapError refusal := by
  rw [readContent_embedded_eq hbody hwhole,
    embeddedSpan_eq_some_iff.2 (braceSpan_trim_iff.2 hspan)]

/-- Without a span the error is the one of the whole content. -/
theorem readContent_of_not_sublist (hbraces : ¬ ['{', '}'].Sublist content.toList) :
    readContent .embedded content = .error (refusal whole) := by
  have hnone : embeddedSpan (trim content.toList) = none := by
    apply Option.eq_none_iff_forall_ne_some.2
    intro span hspan
    exact hbraces (exists_braceSpan_iff.1
      ⟨span, braceSpan_trim_iff.1 (embeddedSpan_eq_some_iff.1 hspan)⟩)
  rw [readContent_embedded_eq hbody hwhole, hnone]

/-- A document is found in prose exactly if the span is one. -/
theorem readContent_embedded_eq_ok_iff {d : Description} :
    readContent .embedded content = .ok d
      ↔ ∃ span, BraceSpan content.toList span ∧ Description.parse (String.ofList span) = .ok d := by
  constructor
  · intro h
    by_cases hbraces : ['{', '}'].Sublist content.toList
    · obtain ⟨span, hspan⟩ := exists_braceSpan_iff.2 hbraces
      rw [readContent_of_braceSpan hbody hwhole hspan, mapError_eq_ok_iff] at h
      exact ⟨span, hspan, h⟩
    · rw [readContent_of_not_sublist hbody hwhole hbraces] at h
      cases h
  · rintro ⟨span, hspan, hd⟩
    rw [readContent_of_braceSpan hbody hwhole hspan, mapError_eq_ok_iff, hd]

end NoDescription

/-- **The two ways to read a reply are consistent.** White space around a reply makes no difference;
the replies found empty are the blank ones; and what is read strictly is read just so where prose is
allowed. A reply that is refused strictly and is not blank is refused for what is wrong with a
document. Where prose is allowed it is then read exactly if it has a closing brace somewhere behind
an opening one and the text from the first opening to the last closing brace is a description;
otherwise it is refused, for the same reason if there are no such braces, and for what is wrong
between them if there are. -/
theorem readContent_modes (content : String) :
    (∀ strictness before after, isBlankText before = true → isBlankText after = true →
        readContent strictness (before ++ content ++ after) = readContent strictness content)
      ∧ (∀ strictness, readContent strictness content = .error .emptyResponse
          ↔ isBlankText content = true)
      ∧ (∀ d, readContent .strict content = .ok d → readContent .embedded content = .ok d)
      ∧ ∀ e, isBlankText content = false → readContent .strict content = .error e →
        (∃ problem, Description.parse (Text.trimmed content) = .error problem
            ∧ e = .invalidJson problem.text)
        ∧ (∀ d, readContent .embedded content = .ok d
            ↔ ∃ span, BraceSpan content.toList span
              ∧ Description.parse (String.ofList span) = .ok d)
        ∧ (¬ ['{', '}'].Sublist content.toList → readContent .embedded content = .error e)
        ∧ ∀ span problem, BraceSpan content.toList span →
          Description.parse (String.ofList span) = .error problem →
          readContent .embedded content = .error (.invalidJson problem.text) := by
  refine ⟨?_, fun _ => readContent_eq_emptyResponse_iff,
    fun _ => readContent_embedded_of_strict, ?_⟩
  · intro strictness before after hbefore hafter
    have htrim := trim_append_of_blank (List.all_eq_true.1 hbefore) (List.all_eq_true.1 hafter)
      content.toList
    exact readContent_congr strictness (by simpa [String.toList_append] using htrim)
  · intro e hblank he
    have hbody : trim content.toList ≠ [] := mt Text.isBlankText_iff.2 (by simp [hblank])
    rw [readContent_strict_eq hbody, mapError_eq_error_iff] at he
    obtain ⟨whole, hwhole, rfl⟩ := he
    refine ⟨⟨whole, hwhole, rfl⟩, fun _ => readContent_embedded_eq_ok_iff hbody hwhole,
      readContent_of_not_sublist hbody hwhole, ?_⟩
    intro span problem hspan hproblem
    rw [readContent_of_braceSpan hbody hwhole hspan, hproblem]
    rfl

/-- A document whose only element has no id. -/
def unnamed : String := r#"{"elements":[{}]}"#

theorem braceSpan_in_prose {text : String} (h : InBraces text.toList) :
    BraceSpan ("Sure: " ++ text ++ " Enjoy.").toList text.toList := by
  refine ⟨h, "Sure: ".toList, " Enjoy.".toList, ?_, by decide, by decide⟩
  rw [String.toList_append, String.toList_append]

/-- The message where a word of prose stands in the place of a document. -/
def wordFound : String := "expected value at line 1 column 1"

/-- A description by itself and in prose, braces that hold none, whose own error is told, and prose
without any. -/
theorem readContent_modes_in_prose :
    (isBlankText "\u2003\n" = true
        ∧ readContent .strict ("\u2003\n" ++ titled ++ "\u2003\n") = readContent .strict titled)
      ∧ (readContent .strict titled = .ok (.blank .custom "T")
        ∧ readContent .embedded titled = .ok (.blank .custom "T"))
      ∧ (isBlankText ("Sure: " ++ titled ++ " Enjoy.") = false
        ∧ readContent .strict ("Sure: " ++ titled ++ " Enjoy.") = .error (.invalidJson wordFound)
        ∧ BraceSpan ("Sure: " ++ titled ++ " Enjoy.").toList titled.toList
        ∧ readContent .embedded ("Sure: " ++ titled ++ " Enjoy.") = .ok (.blank .custom "T"))
      ∧ (isBlankText ("Sure: " ++ unnamed ++ " Enjoy.") = false
        ∧ readContent .strict ("Sure: " ++ unnamed ++ " Enjoy.") = .error (.invalidJson wordFound)
        ∧ BraceSpan ("Sure: " ++ unnamed ++ " Enjoy.").toList unnamed.toList
        ∧ readContent .embedded ("Sure: " ++ unnamed ++ " Enjoy.")
          = .error (.invalidJson "missing field `id` at line 1 column 15"))
      ∧ isBlankText "Enjoy." = false
        ∧ readContent .strict "Enjoy." = .error (.invalidJson wordFound)
        ∧ ¬ ['{', '}'].Sublist "Enjoy.".toList
        ∧ readContent .embedded "Enjoy." = .error (.invalidJson wordFound) := by
  have hblank : isBlankText "\u2003\n" = true := by decide
  have htitled : readContent .strict titled = .ok (.blank .custom "T") := by decide +kernel
  have hprose : isBlankText ("Sure: " ++ titled ++ " Enjoy.") = false := by decide
  have hrefused : readContent .strict ("Sure: " ++ titled ++ " Enjoy.")
      = .error (.invalidJson wordFound) := by decide +kernel
  have hspan : BraceSpan ("Sure: " ++ titled ++ " Enjoy.").toList titled.toList :=
    braceSpan_in_prose ⟨by decide, by decide⟩
  have hprose' : isBlankText ("Sure: " ++ unnamed ++ " Enjoy.") = false := by decide
  have hrefused' : readContent .strict ("Sure: " ++ unnamed ++ " Enjoy.")
      = .error (.invalidJson wordFound) := by decide +kernel
  have hspan' : BraceSpan ("Sure: " ++ unnamed ++ " Enjoy.").toList unnamed.toList :=
    braceSpan_in_prose ⟨by decide, by decide⟩
  have hunnamed : Description.parse (String.ofList unnamed.toList)
      = .error ⟨[.member "elements", .item 0], .mismatch (.missingField "id"), some ⟨1, 15⟩⟩ := by
    decide +kernel
  have hbare : isBlankText "Enjoy." = false := by decide
  have hrefusedBare : readContent .strict "Enjoy." = .error (.invalidJson wordFound) := by
    decide +kernel
  have hnone : ¬ ['{', '}'].Sublist "Enjoy.".toList := by decide
  obtain ⟨haround, -, hkept, -⟩ := readContent_modes titled
  obtain ⟨-, hfound, -⟩ := (readContent_modes _).2.2.2 _ hprose hrefused
  obtain ⟨-, -, -, hwrong⟩ := (readContent_modes _).2.2.2 _ hprose' hrefused'
  obtain ⟨-, -, hsame, -⟩ := (readContent_modes _).2.2.2 _ hbare hrefusedBare
  exact ⟨⟨hblank, haround .strict _ _ hblank hblank⟩, ⟨htitled, hkept _ htitled⟩,
    ⟨hprose, hrefused, hspan, (hfound _).2 ⟨_, hspan, String.ofList_toList ▸ parse_titled⟩⟩,
    ⟨hprose', hrefused', hspan', hwrong _ _ hspan' hunnamed⟩, hbare, hrefusedBare, hnone,
    hsame hnone⟩

/-- Of two flaws the one in the braces is told where prose is allowed. -/
example : readContent .strict r"x {a}" = .error (.invalidJson wordFound)
    ∧ readContent .embedded r"x {a}"
      = .error (.invalidJson "key must be a string at line 1 column 2") := by
  decide +kernel

end Widgetry
