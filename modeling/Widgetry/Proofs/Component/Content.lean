import Mathlib.Data.List.Forall2
import Widgetry.Proofs.Component.Readability
import Widgetry.Proofs.Component.Style

/-!
What a component shows is all that its source tells. The source of a description is determined by
the title, the color and the font of the outer box, and the content of each element (`SameContent`),
and it determines all of these (`emit_code_eq_iff`). The rest of a description has no influence.

That equal contents give equal sources is seen from how components are made. For the other direction
a source is read back to its layout (`Layout.code_inj`), and the layout to the contents: what has to
be seen is that no two contents have one layout, although a blank label gives way to a fixed text in
the place of elements that are not rendered.
-/

namespace Widgetry.Component

/-! ## 1. Contents of elements -/

/-- How elements are shown. -/
inductive Display where
  | text
  | input
  | button
  | question
  | placeholder
  deriving Repr, DecidableEq

/-- How elements of a kind are shown. -/
def Display.ofKind : ElementKind → Display
  | .text => .text
  | .input => .input
  | .button => .button
  | .question => .question
  | .timer | .todoItem | .calculation | .other _ => .placeholder

/-- Two elements that show the same: they have one id and are shown in one way, and what is shown of
elements of their sort is equal. -/
@[mk_iff]
structure SameContent (e f : Element) : Prop where
  id : e.id = f.id
  display : Display.ofKind e.kind = Display.ofKind f.kind
  shown : match Display.ofKind e.kind with
    | .text => e.label = f.label
      ∧ ∀ key, overlaid textDefaults e.style key = overlaid textDefaults f.style key
    | .input => e.label = f.label ∧ e.placeholder.getD "" = f.placeholder.getD ""
    | .button => e.label = f.label
      ∧ ∀ key, overlaid buttonDefaults e.style key = overlaid buttonDefaults f.style key
    | .question => e.label = f.label ∧ e.options = f.options
    | .placeholder => e.kind.tag = f.kind.tag ∧ (e.label = f.label
      ∨ Text.isBlankText e.label = true ∧ Text.isBlankText f.label = true)

theorem blankMessage_ne (kind label : String) :
    "Unsupported element: " ++ kind ≠ "Unsupported element (" ++ kind ++ "): " ++ label := by
  intro h
  have hchars := congrArg String.toList h
  simp only [String.toList_append, List.append_assoc] at hchars
  exact code_ne rfl rfl (by decide) hchars

/-- The message of a placeholder tells its label, unless the label is blank. -/
theorem placeholderMessage_eq_iff {kind label label' : String} :
    placeholderMessage kind label = placeholderMessage kind label'
      ↔ label = label' ∨ Text.isBlankText label = true ∧ Text.isBlankText label' = true := by
  rw [placeholderMessage, placeholderMessage]
  cases h : Text.isBlankText label <;> cases h' : Text.isBlankText label'
  · simp [← String.toList_inj]
  · have hne : label ≠ label' := fun heq => by simp [heq, h'] at h
    simpa [hne] using (blankMessage_ne kind label).symm
  · have hne : label ≠ label' := fun heq => by simp [heq, h'] at h
    simpa [hne] using blankMessage_ne kind label'
  · simp

theorem textStyle_eq_iff {e f : Element} : textStyle e = textStyle f
    ↔ ∀ key, overlaid textDefaults e.style key = overlaid textDefaults f.style key := by
  rw [textStyle_eq, textStyle_eq]
  exact overlay_eq_iff (by decide)

theorem buttonStyle_eq_iff {e f : Element} : buttonStyle e = buttonStyle f
    ↔ ∀ key, overlaid buttonDefaults e.style key = overlaid buttonDefaults f.style key := by
  rw [buttonStyle_eq, buttonStyle_eq]
  exact overlay_eq_iff (by decide)

/-- The fragment of an element by the way in which it is shown. -/
theorem ofElement_eq (e : Element) :
    Fragment.ofElement e = match Display.ofKind e.kind with
      | .text => .text e.id e.label (textStyle e)
      | .input => .input e.id e.label (e.placeholder.getD "")
      | .button => .button e.id e.label (buttonStyle e)
      | .question => .question e.id e.label e.options
      | .placeholder =>
        .placeholder e.id e.kind.tag (placeholderMessage e.kind.tag e.label) := by
  rw [Fragment.ofElement]
  cases e.kind <;> rfl

/-- Elements are rendered alike exactly if they show the same. -/
theorem ofElement_eq_iff {e f : Element} :
    Fragment.ofElement e = Fragment.ofElement f ↔ SameContent e f := by
  rw [ofElement_eq, ofElement_eq, sameContent_iff]
  cases Display.ofKind e.kind <;> cases Display.ofKind f.kind
  case text.text => simp [textStyle_eq_iff]
  case input.input => simp
  case button.button => simp [buttonStyle_eq_iff]
  case question.question => simp
  case placeholder.placeholder =>
    simp only [Fragment.placeholder.injEq, true_and]
    refine and_congr_right fun _ => and_congr_right fun hkind => ?_
    rw [hkind, placeholderMessage_eq_iff]
  all_goals simp

/-! ## 2. Sources of descriptions -/

theorem containerStyle_eq_iff {s t : Styling} :
    containerStyle s = containerStyle t
      ↔ s.primaryColor = t.primaryColor ∧ s.fontFamily = t.fontFamily := by
  simp [containerStyle]

theorem map_ofElement_eq_iff {es fs : List Element} :
    es.map Fragment.ofElement = fs.map Fragment.ofElement ↔ List.Forall₂ SameContent es fs := by
  rw [← List.forall₂_eq_eq_eq, List.forall₂_map_left_iff, List.forall₂_map_right_iff]
  simp only [ofElement_eq_iff]

theorem layout_eq_iff {a b : Description} :
    layout a = layout b ↔ a.title = b.title
      ∧ a.effectiveStyling.primaryColor = b.effectiveStyling.primaryColor
      ∧ a.effectiveStyling.fontFamily = b.effectiveStyling.fontFamily
      ∧ List.Forall₂ SameContent a.elements b.elements := by
  simp only [layout, Layout.mk.injEq, containerStyle_eq_iff, map_ofElement_eq_iff, and_assoc]
  constructor
  · rintro ⟨-, h⟩
    exact h
  · intro h
    exact ⟨congrArg name h.1, h⟩

/-- **The source of a component tells what it shows, and nothing else**: two descriptions whose ids
differ have one source exactly if they agree in title, outer color and font, and in the content of
their elements. -/
theorem emit_code_eq_iff {a b : Description} (ha : a.ids.Nodup) (hb : b.ids.Nodup) :
    ∃ p q, emit a = .ok p ∧ emit b = .ok q
      ∧ (p.code = q.code ↔ a.title = b.title
        ∧ a.effectiveStyling.primaryColor = b.effectiveStyling.primaryColor
        ∧ a.effectiveStyling.fontFamily = b.effectiveStyling.fontFamily
        ∧ List.Forall₂ SameContent a.elements b.elements) := by
  have hword (d : Description) : ∀ c ∈ (layout d).name.toList, isWordChar c = true :=
    fun _ => isWordChar_of_mem_name
  exact ⟨_, _, emit_eq_ok ha, emit_eq_ok hb,
    (Layout.code_inj (hword a) (hword b)).trans layout_eq_iff⟩

/-- The same document with other hints, theme and second color. -/
def rehintedWidget : Description :=
  { hostileWidget with
    category := .timer
    description := some "evil"
    logic := some Logic.empty
    styling := some { Styling.default with theme := .dark, secondaryColor := "red" }
    elements := hostileWidget.elements.map fun e =>
      { e with validation := .email, defaultValue := some "x" } }

theorem emit_code_rehintedWidget :
    ∃ p q, emit hostileWidget = .ok p ∧ emit rehintedWidget = .ok q ∧ p.code = q.code := by
  obtain ⟨p, q, hp, hq, h⟩ :=
    emit_code_eq_iff (a := hostileWidget) (b := rehintedWidget) (by decide) (by decide)
  refine ⟨p, q, hp, hq, h.2 ⟨rfl, rfl, rfl, ?_⟩⟩
  exact map_ofElement_eq_iff.1
    (by simp [rehintedWidget, Fragment.ofElement, textStyle, buttonStyle])

end Widgetry.Component
