import Mathlib.Data.List.Forall2
import Widgetry.Proofs.Component.Balance
import Widgetry.Proofs.Component.Style

/-!
The shape of a component: what is left of its source when every literal is emptied. The shape
depends on the name of the component, on the form of each fragment, on the number of options of a
question and on the keys of a style, and on no text of the document (`hollow_emit_eq`).

Two things come together. Every chunk ends its own literals, so emptying the literals of the source
is emptying the literals among its chunks. And the chunks of two fragments of one form agree but for
the texts of their literals (`Fragment.SameForm.map_blank_chunks`).
-/

namespace Widgetry.Component

/-! ## 1. Fragments of one form -/

@[simp] theorem Chunk.blank_code (s : String) : (Chunk.code s).blank = .code s := rfl

@[simp] theorem Chunk.blank_literal (s : String) : (Chunk.literal s).blank = .literal "" := rfl

/-- Two styles with one set of keys. -/
def Style.SameKeys (s t : Style) : Prop :=
  ∀ key, key ∈ s.keys ↔ key ∈ t.keys

/-- Two fragments of one form: they are of one sort, styles that a document may change have the same
keys, and questions have equally many options. -/
inductive Fragment.SameForm : Fragment → Fragment → Prop
  | text {id id' body body' : String} {s t : Style} (keys : s.SameKeys t) :
    SameForm (.text id body s) (.text id' body' t)
  | input {id id' label label' hint hint' : String} :
    SameForm (.input id label hint) (.input id' label' hint')
  | button {id id' label label' : String} {s t : Style} (keys : s.SameKeys t) :
    SameForm (.button id label s) (.button id' label' t)
  | question {id id' label label' : String} {options options' : List String}
    (length : options.length = options'.length) :
    SameForm (.question id label options) (.question id' label' options')
  | placeholder {id id' kind kind' message message' : String} :
    SameForm (.placeholder id kind message) (.placeholder id' kind' message')

theorem map_blank_propertyChunks {e f : String × String} (h : e.1 = f.1) :
    (propertyChunks e).map Chunk.blank = (propertyChunks f).map Chunk.blank := by
  simp only [propertyChunks, h]
  split <;> rfl

theorem map_blank_propertiesChunks : ∀ {es fs : List (String × String)},
    es.map Prod.fst = fs.map Prod.fst →
    (propertiesChunks es).map Chunk.blank = (propertiesChunks fs).map Chunk.blank
  | [], [], _ => rfl
  | [e], [f], h => map_blank_propertyChunks (by simpa using h)
  | e :: e' :: es, f :: f' :: fs, h => by
    obtain ⟨hhead, htail⟩ : e.1 = f.1 ∧ (e' :: es).map Prod.fst = (f' :: fs).map Prod.fst := by
      simpa using h
    simp only [propertiesChunks, List.map_append, List.map_cons, map_blank_propertyChunks hhead,
      map_blank_propertiesChunks htail]
  | [], _ :: _, h => by simp at h
  | _ :: _, [], h => by simp at h
  | [_], _ :: _ :: _, h => by simp at h
  | _ :: _ :: _, [_], h => by simp at h

/-- Without the texts of its literals a style is its keys in their order. -/
theorem Style.map_blank_chunks {s t : Style} (h : s.keys = t.keys) :
    s.chunks.map Chunk.blank = t.chunks.map Chunk.blank := by
  have hempty : s.entries.isEmpty = t.entries.isEmpty := by
    have hlength : s.entries.length = t.entries.length := by
      simpa [Style.keys] using congrArg List.length h
    rw [Bool.eq_iff_iff, List.isEmpty_iff_length_eq_zero, List.isEmpty_iff_length_eq_zero, hlength]
  simp only [Style.chunks, hempty]
  split
  · rfl
  · simp [map_blank_propertiesChunks h]

theorem map_blank_styleAttribute {s t : Style} (h : s.keys = t.keys) :
    (styleAttribute s).map Chunk.blank = (styleAttribute t).map Chunk.blank := by
  simp [styleAttribute, inBraces, Style.map_blank_chunks h]

theorem map_blank_optionsChunks (id id' : String) (index : Nat) {options options' : List String}
    (h : options.length = options'.length) :
    (optionsChunks id index options).map Chunk.blank
      = (optionsChunks id' index options').map Chunk.blank := by
  induction options generalizing index options' with
  | nil =>
    rw [List.length_eq_zero_iff.1 h.symm]
    rfl
  | cons o os ih =>
    cases options' with
    | nil => simp at h
    | cons o' os' =>
      have hrest : os.length = os'.length := by simpa using h
      simp [optionsChunks, optionChunks, textAttribute, inBraces, formData, changeAttribute,
        content, ih (index + 1) hrest]

/-- A fragment whose style is an element's own, laid over the fixed one of its sort. -/
def Fragment.Overlaid : Fragment → Prop
  | .text _ _ s => ∃ d : Dictionary String, s = textDefaults.setAll d.entries
  | .button _ _ s => ∃ d : Dictionary String, s = buttonDefaults.setAll d.entries
  | _ => True

theorem Fragment.overlaid_ofElement (e : Element) : (Fragment.ofElement e).Overlaid := by
  rw [Fragment.ofElement]
  split
  · exact ⟨e.style, textStyle_eq e⟩
  · trivial
  · exact ⟨e.style, buttonStyle_eq e⟩
  · trivial
  · trivial

/-- Without the texts of their literals two fragments of one form have the same chunks. -/
theorem Fragment.SameForm.map_blank_chunks {f g : Fragment} (h : f.SameForm g) (hf : f.Overlaid)
    (hg : g.Overlaid) : f.chunks.map Chunk.blank = g.chunks.map Chunk.blank := by
  cases h with
  | text keys =>
    obtain ⟨d, rfl⟩ := hf
    obtain ⟨d', rfl⟩ := hg
    simp [Fragment.chunks, openBox, textAttribute, content, inBraces,
      map_blank_styleAttribute (keys_overlay_eq keys)]
  | input =>
    simp [Fragment.chunks, openBox, textAttribute, content, inBraces, formData, changeAttribute]
  | button keys =>
    obtain ⟨d, rfl⟩ := hf
    obtain ⟨d', rfl⟩ := hg
    simp [Fragment.chunks, textAttribute, content, inBraces,
      map_blank_styleAttribute (keys_overlay_eq keys)]
  | @question id id' label label' options options' length =>
    simp [Fragment.chunks, openBox, textAttribute, content, inBraces,
      map_blank_optionsChunks id id' 0 length]
  | placeholder =>
    simp [Fragment.chunks, openBox, textAttribute, content, inBraces]

/-! ## 2. Components of one form -/

theorem map_blank_fragments {es fs : List Element}
    (h : List.Forall₂ (fun e f => (Fragment.ofElement e).SameForm (Fragment.ofElement f)) es fs) :
    ((es.map Fragment.ofElement).flatMap fun f => .code "\n" :: f.chunks).map Chunk.blank
      = ((fs.map Fragment.ofElement).flatMap fun f => .code "\n" :: f.chunks).map Chunk.blank := by
  induction h with
  | nil => rfl
  | cons hef _ ih =>
    have hhead := hef.map_blank_chunks (Fragment.overlaid_ofElement _)
      (Fragment.overlaid_ofElement _)
    simp only [List.map_cons, List.flatMap_cons, List.map_append, hhead, ih]

/-- Components with one name and fragments of one form have one shape. -/
theorem map_blank_layout {a b : Description} (hname : name a.title = name b.title)
    (h : List.Forall₂
      (fun e f => (Fragment.ofElement e).SameForm (Fragment.ofElement f)) a.elements b.elements) :
    (layout a).chunks.map Chunk.blank = (layout b).chunks.map Chunk.blank := by
  have hcontainer :
      (styleAttribute (containerStyle a.effectiveStyling)).map Chunk.blank
        = (styleAttribute (containerStyle b.effectiveStyling)).map Chunk.blank :=
    map_blank_styleAttribute rfl
  simp [Layout.chunks, layout, content, inBraces, hname, hcontainer, map_blank_fragments h]

/-- **No text changes the structure of a component**: descriptions whose titles give one name and
whose elements are shown in one form have one source when every literal is emptied, and in both
sources every literal ends. -/
theorem hollow_emit_eq {a b : Description} (ha : a.ids.Nodup) (hb : b.ids.Nodup)
    (hname : name a.title = name b.title)
    (hforms : List.Forall₂
      (fun e f => (Fragment.ofElement e).SameForm (Fragment.ofElement f)) a.elements b.elements) :
    ∃ p q, emit a = .ok p ∧ emit b = .ok q
      ∧ literalsEnd .code p.code.toList = true ∧ literalsEnd .code q.code.toList = true
      ∧ hollow .code p.code.toList = hollow .code q.code.toList := by
  refine ⟨_, _, emit_eq_ok ha, emit_eq_ok hb, literalsEnd_source a, literalsEnd_source b, ?_⟩
  rw [hollow_source, hollow_source, ← skeleton_map_blank, map_blank_layout hname hforms,
    skeleton_map_blank]

/-- A document like `hostileWidget`, with plain texts. -/
def plainWidget : Description :=
  { Description.blank .quiz "Evil title with quotes script" with
    elements :=
      [{ Element.plain .text "a" "Hello" with style := .ofList [("font-size", "1em")] },
       Element.plain .input "b" "Name",
       { Element.plain .question "c" "Which?" with options := ["Red", "Blue", "Green"] },
       Element.plain .button "d" "Send",
       Element.plain .timer "e" ""] }

theorem hollow_emit_widgets :
    ∃ p q, emit plainWidget = .ok p ∧ emit hostileWidget = .ok q
      ∧ literalsEnd .code p.code.toList = true ∧ literalsEnd .code q.code.toList = true
      ∧ hollow .code p.code.toList = hollow .code q.code.toList :=
  hollow_emit_eq (by decide) (by decide) (by decide +kernel)
    (.cons (.text fun _ => Iff.rfl) <| .cons .input <| .cons (.question rfl) <|
      .cons (.button fun _ => Iff.rfl) <| .cons .placeholder .nil)

end Widgetry.Component
