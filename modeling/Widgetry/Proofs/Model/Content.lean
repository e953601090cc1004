import Widgetry.Model.Content
import Widgetry.Proofs.Text.Trimming
import Widgetry.Proofs.Widget.Whole

/-!
Prose around a description. Where prose is allowed, the description in a reply is found whatever
stands before its first and behind its last brace (`readContent_embedded`). What could get in the
way is the attempt to read the whole reply, which comes first. It succeeds on the description by
itself, and otherwise only if the reply is an array: what is read as a description is in brackets of
one kind, and prose that has no brace of the one kind to begin with can only add square ones.
-/

namespace Widgetry

open Text (isBlank trim trimLeft trimRight trimLeft_append trimRight_append)

/-! ## 1. Braces -/

/-- Text that is in braces. -/
structure InBraces (cs : List Char) : Prop where
  head : cs.head? = some '{'
  last : cs.getLast? = some '}'

namespace InBraces

variable {before cs after : List Char}

theorem exists_cons (h : InBraces cs) : ∃ rest, cs = '{' :: rest :=
  List.head?_eq_some_iff.1 h.head

theorem exists_concat (h : InBraces cs) : ∃ front, cs = front ++ ['}'] :=
  List.getLast?_eq_some_iff.1 h.last

/-- Only what is around the braces is trimmed. -/
theorem trim_append (h : InBraces cs) :
    trim (before ++ cs ++ after) = trimLeft before ++ cs ++ trimRight after := by
  obtain ⟨rest, hrest⟩ := h.exists_cons
  obtain ⟨front, hfront⟩ := h.exists_concat
  have hleft : trimLeft (before ++ cs ++ after) = trimLeft before ++ cs ++ after := by
    rw [List.append_assoc, hrest, List.cons_append, trimLeft_append (by decide), List.append_assoc,
      List.cons_append]
  have hright : trimRight (trimLeft before ++ cs ++ after)
      = trimLeft before ++ cs ++ trimRight after := by
    rw [hfront, ← List.append_assoc, List.append_assoc, List.singleton_append,
      trimRight_append (by decide), List.append_assoc _ _ (trimRight after),
      List.singleton_append]
  rw [trim, hleft, hright]

/-- The span of braces in a text is found, if no opening brace is before it and no closing one
behind it. -/
theorem embeddedSpan_append (h : InBraces cs) (hbefore : '{' ∉ before) (hafter : '}' ∉ after) :
    embeddedSpan (before ++ cs ++ after) = some cs := by
  obtain ⟨rest, hrest⟩ := h.exists_cons
  obtain ⟨front, hfront⟩ := h.exists_concat
  have hopen : (before ++ cs ++ after).dropWhile (· != '{') = cs ++ after := by
    have hpass : ∀ c ∈ before, (c != '{') = true :=
      fun c hc => bne_iff_ne.2 fun heq => hbefore (heq ▸ hc)
    rw [List.append_assoc, List.dropWhile_append_of_pos hpass, hrest, List.cons_append,
      List.dropWhile_cons_of_neg (by simp)]
  have hclose : throughLastBrace (cs ++ after) = cs := by
    have hpass : ∀ c ∈ after.reverse, (c != '}') = true :=
      fun c hc => bne_iff_ne.2 fun heq => hafter (heq ▸ List.mem_reverse.1 hc)
    rw [throughLastBrace, hfront, List.reverse_append, List.dropWhile_append_of_pos hpass,
      List.reverse_append, List.reverse_singleton, List.singleton_append,
      List.dropWhile_cons_of_neg (by simp), List.reverse_cons, List.reverse_reverse]
  rw [embeddedSpan, hopen, hclose, if_neg (by simp [hrest])]

end InBraces

/-! ## 2. Replies -/

theorem isBlank_of_isGap {c : Char} (h : Json.isGap c = true) : isBlank c = true := by
  simp only [Json.isGap, Bool.or_eq_true, beq_iff_eq] at h
  rcases h with ((rfl | rfl) | rfl) | rfl <;> decide

/-- A trimmed text that is read as a description is in brackets of one kind. -/
theorem Description.ends_of_parse_trim {cs : List Char} {d : Description}
    (h : parse (String.ofList (trim cs)) = .ok d) :
    ∃ e ∈ Json.ends, (trim cs).head? = some e.1 ∧ (trim cs).getLast? = some e.2 := by
  have hgap {c : Char} (hc : isBlank c = false) : Json.isGap c = false :=
    Bool.eq_false_iff.2 fun hgap => by rw [isBlank_of_isGap hgap] at hc; cases hc
  have hends := ends_of_parse h
  rw [String.toList_ofList] at hends
  exact hends (fun c hc => hgap (Text.isBlank_of_head?_trim hc))
    fun c hc => hgap (Text.isBlank_of_getLast?_trim hc)

theorem readContent_of_parse_ok (strictness : Strictness) {content : String} {d : Description}
    (h : Description.parse (Text.trimmed content) = .ok d)
    (hbody : trim content.toList ≠ []) : readContent strictness content = .ok d := by
  rw [Text.trimmed] at h
  simp [readContent, hbody, h]

theorem readContent_of_span {content : String} {span : List Char} {d : Description}
    {e : Json.Error} (hwhole : Description.parse (Text.trimmed content) = .error e)
    (hbody : trim content.toList ≠ []) (hspan : embeddedSpan (trim content.toList) = some span)
    (h : Description.parse (String.ofList span) = .ok d) :
    readContent .embedded content = .ok d := by
  rw [Text.trimmed] at hwhole
  simp [readContent, hbody, hwhole, hspan, h]

/-- Prose that leaves the ends of a text in brackets of one kind is blank, or adds square ones. -/
theorem InBraces.blank_or_square {before cs after : List Char} (h : InBraces cs)
    (hbefore : '{' ∉ before) (hafter : '}' ∉ after) {e : Char × Char} (he : e ∈ Json.ends)
    (hhead : (before ++ cs ++ after).head? = some e.1)
    (hlast : (before ++ cs ++ after).getLast? = some e.2) :
    before = [] ∧ after = [] ∨ before.head? = some '[' ∧ after.getLast? = some ']' := by
  rw [List.append_assoc, List.head?_append, List.head?_append, h.head] at hhead
  rw [List.getLast?_append, List.getLast?_append, h.last] at hlast
  simp only [Json.ends, List.mem_cons, List.not_mem_nil, or_false] at he
  rcases he with rfl | rfl
  -- a reply in braces: prose at either end would begin or end with a brace that it does not have
  · left
    constructor
    · cases before with
      | nil => rfl
      | cons c before =>
        obtain rfl : c = '{' := by simpa using hhead
        exact absurd List.mem_cons_self hbefore
    · cases hend : after.getLast? with
      | none => exact List.getLast?_eq_none_iff.1 hend
      | some c =>
        obtain rfl : c = '}' := by simpa [hend] using hlast
        exact absurd (List.mem_of_getLast? hend) hafter
  -- a reply in square brackets: those are not the ends of the description, so prose has them
  · right
    constructor
    · cases before with
      | nil => simp at hhead
      | cons c before => simpa using hhead
    · cases hend : after.getLast? with
      | none => simp [hend] at hlast
      | some c => simpa [hend] using hlast

/-- **Prose around a description does not matter**: where prose is allowed, a description in braces
is found in a reply that has no opening brace before it and no closing one behind it, unless the
whole reply, which is tried first, is itself a description. Such a reply is an array: apart from
white space the prose before the description begins with an opening square bracket, and the prose
behind it ends with a closing one. -/
theorem readContent_embedded (before after : String) {text : String} {d : Description}
    (hhead : text.toList.head? = some '{') (hlast : text.toList.getLast? = some '}')
    (hparse : Description.parse text = .ok d)
    (hbefore : '{' ∉ before.toList) (hafter : '}' ∉ after.toList) :
    readContent .embedded (before ++ text ++ after) = .ok d
      ∨ ∃ whole, (trimLeft before.toList).head? = some '['
        ∧ (trimRight after.toList).getLast? = some ']'
        ∧ Description.parse (Text.trimmed (before ++ text ++ after)) = .ok whole
        ∧ readContent .embedded (before ++ text ++ after) = .ok whole := by
  have hbraces : InBraces text.toList := ⟨hhead, hlast⟩
  have hleft : '{' ∉ trimLeft before.toList :=
    fun hmem => hbefore ((List.dropWhile_sublist isBlank).subset hmem)
  have hright : '}' ∉ trimRight after.toList := fun hmem =>
    hafter (List.mem_reverse.1 ((List.dropWhile_sublist isBlank).subset (List.mem_reverse.1 hmem)))
  have hbody : trim (before ++ text ++ after).toList
      = trimLeft before.toList ++ text.toList ++ trimRight after.toList := by
    rw [String.toList_append, String.toList_append, hbraces.trim_append]
  have hne : trim (before ++ text ++ after).toList ≠ [] := by
    obtain ⟨rest, hrest⟩ := hbraces.exists_cons
    rw [hbody, hrest]
    simp
  -- the reply as a whole is tried first, and the span of braces only if that fails
  cases hwhole : Description.parse (Text.trimmed (before ++ text ++ after)) with
  | error e =>
    have hspan := hbraces.embeddedSpan_append hleft hright
    rw [← hbody] at hspan
    have hfound : Description.parse (String.ofList text.toList) = .ok d := by
      rw [String.ofList_toList, hparse]
    exact .inl (readContent_of_span hwhole hne hspan hfound)
  | ok whole =>
    have hread := readContent_of_parse_ok .embedded hwhole hne
    obtain ⟨e, he, hfirst, hend⟩ := Description.ends_of_parse_trim hwhole
    rw [hbody] at hfirst hend
    rcases hbraces.blank_or_square hleft hright he hfirst hend with
      ⟨hblank, hblank'⟩ | ⟨hsquare, hsquare'⟩
    · have htext : Text.trimmed (before ++ text ++ after) = text := by
        rw [Text.trimmed, hbody, hblank, hblank', List.nil_append, List.append_nil,
          String.ofList_toList]
      rw [htext, hparse] at hwhole
      exact .inl (Except.ok.inj hwhole ▸ hread)
    · exact .inr ⟨whole, hsquare, hsquare', rfl, hread⟩

theorem eq_ok_of_toOption {ε α : Type} {x : Except ε α} {a : α} (h : x.toOption = some a) :
    x = .ok a := by
  cases x with
  | error e => cases h
  | ok b => exact congrArg Except.ok (Option.some.inj h)

/-- A document with nothing but a title. -/
def titled : String := r#"{"title":"T"}"#

theorem parse_titled : Description.parse titled = .ok (.blank .custom "T") :=
  eq_ok_of_toOption (by decide +kernel)

/-- A description in a fence, with square brackets in the prose. -/
theorem readContent_embedded_fenced :
    Description.parse titled = .ok (.blank .custom "T")
      ∧ readContent .embedded ("Here [it] is:\n```json\n" ++ titled ++ "\n```\n[Enjoy.]")
        = .ok (.blank .custom "T") := by
  have hread := readContent_embedded "Here [it] is:\n```json\n" "\n```\n[Enjoy.]" (by decide)
    (by decide) parse_titled (by decide) (by decide)
  refine ⟨parse_titled, hread.resolve_right ?_⟩
  rintro ⟨whole, hsquare, -⟩
  exact absurd hsquare (by decide)

/-- A description as the only item of an array: the whole reply is read as a description in array
form, whose category is unknown and which has no title. -/
theorem readContent_embedded_item :
    titled.toList.head? = some '{' ∧ titled.toList.getLast? = some '}'
      ∧ Description.parse titled = .ok (.blank .custom "T")
      ∧ '{' ∉ "[".toList ∧ '}' ∉ "]".toList
      ∧ readContent .embedded ("[" ++ titled ++ "]") = .ok (.blank .custom "")
      ∧ readContent .embedded ("[" ++ titled ++ "]") ≠ .ok (.blank .custom "T") := by
  have hread : readContent .embedded ("[" ++ titled ++ "]") = .ok (.blank .custom "") :=
    eq_ok_of_toOption (by decide +kernel)
  refine ⟨by decide, by decide, parse_titled, by decide, by decide, hread, ?_⟩
  rw [hread]
  exact fun h => absurd (Except.ok.inj h) (by decide)

end Widgetry
