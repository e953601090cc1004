import Widgetry.Proofs.Json.Spot
import Widgetry.Proofs.Widget.Fields

/-!
Texts and tags of widget documents. Each record of a description has a table of its spots, and the
table of the description has all of them, those of an element and of a condition at any place.

Main statement: a scalar in the place of a text or a tag is read as its text, and changes nothing
else of the description (`Description.decoder_setAt`). That holds of every field but the two colors
and the font of a styling, which have to be texts: null or a number there makes a document
unreadable (`Description.number_refused_as_color`). A field that is left out is read as null would
be, except that an id has to be there.
-/

namespace Widgetry

open Json

/-! ## 1. Scalars -/

/-- A scalar has no members to put in order. -/
theorem sorted_of_isScalar {s : Value} (h : s.isScalar = true) : s.sorted = s := by
  cases s <;> first | rfl | simp [Value.isScalar] at h

/-- A scalar fits at every depth. -/
theorem nesting_le_of_isScalar {s : Value} (h : s.isScalar = true) (d : Depth) :
    s.nesting ≤ d := by
  cases s <;> first | exact Nat.zero_le d | simp [Value.isScalar] at h

/-- A scalar is read as its text, null as none. -/
theorem reads_scalar : Decoder.scalar.Reads .any id := by
  intro o d s h b
  rw [Decoder.scalar_eq_ok (nesting_le_of_isScalar h d), sorted_of_isScalar h]
  simp [Shape.any, eq_comm]

/-- Where a text is expected a scalar is read as its text, and null as an empty one. -/
theorem reads_lenientText : Decoder.lenientText.Reads .any fun t => t.getD "" := by
  intro o d s h b
  rw [Decoder.lenientText_eq_ok (nesting_le_of_isScalar h d), sorted_of_isScalar h]
  simp [Shape.any, eq_comm]

/-- A tag is read from any scalar, and the default stands for null. -/
theorem reads_tagged {α : Type} {default : α} {ofText : String → α} :
    (Element.tagged default ofText).Reads .any fun t => (t.map ofText).getD default := by
  intro o d s h b
  rw [Element.tagged_eq_ok (nesting_le_of_isScalar h d), sorted_of_isScalar h]
  simp [Shape.any, eq_comm]

/-- The texts of styling are read from texts only. This is where a number or a boolean is refused.
-/
theorem reads_text (default : String) : Decoder.text.Reads .text fun t => t.getD default := by
  intro o d s _ b
  rw [Decoder.text_eq_ok_iff]
  cases s <;> simp [Shape.text, Value.asText, eq_comm]

/-! ## 2. Spots -/

/-- The texts and tags of an element. -/
def Element.spots : List (Spot Element) :=
  [.field "type" .any false fun t e => { e with kind := (t.map ElementKind.ofTag).getD .text },
   .field "id" .any true fun t e => { e with id := t.getD "" },
   .field "label" .any false fun t e => { e with label := t.getD "" },
   .field "placeholder" .any false fun t e => { e with placeholder := t },
   .field "validation" .any false fun t e =>
     { e with validation := (t.map Validation.ofText).getD .optional },
   .field "defaultValue" .any false fun t e => { e with defaultValue := t }]

/-- An element is complete if it has an id; everything else has a default. -/
theorem Element.complete_eq_ok {s : Parts} {e : Element} (h : record.complete s = .ok e) :
    ∃ id, s.id = some id ∧ e = ⟨s.kind.getD .text, id, s.label.getD "", s.placeholder.getD none,
      s.options.getD [], s.validation.getD .optional, s.defaultValue.getD none,
      s.style.getD .empty⟩ := by
  obtain ⟨id, hid, h⟩ := exists_of_required_bind h
  exact ⟨id, hid, (Except.ok.inj h).symm⟩

/-- The texts and tags of an element are where they are said to be, and take any scalar. -/
theorem Element.sound_spots : ∀ spot ∈ spots, spot.Sound record.decoder := by
  simp only [spots, List.forall_mem_cons, List.not_mem_nil, false_implies, implies_true, and_true]
  refine ⟨Spot.sound_field record_sound 0 rfl reads_tagged ?_ ?_,
    Spot.sound_field record_sound 1 rfl reads_lenientText ?_ ?_,
    Spot.sound_field record_sound 2 rfl reads_lenientText ?_ ?_,
    Spot.sound_field record_sound 3 rfl reads_scalar ?_ ?_,
    Spot.sound_field record_sound 5 rfl reads_tagged ?_ ?_,
    Spot.sound_field record_sound 6 rfl reads_scalar ?_ ?_⟩
  all_goals
    first | intro t s e h | intro s e h
    obtain ⟨id, hid, rfl⟩ := complete_eq_ok h
    simp [record, hid, required, bind, Except.bind, pure, Except.pure]

/-- The texts of a condition. -/
def Condition.spots : List (Spot Condition) :=
  [.field "if" .any false fun t c => { c with condition := t.getD "" },
   .field "then" .any false fun t c => { c with action := t.getD "" }]

/-- So do the texts of a condition. -/
theorem Condition.sound_spots : ∀ spot ∈ spots, spot.Sound record.decoder := by
  simp only [spots, List.forall_mem_cons, List.not_mem_nil, false_implies, implies_true, and_true]
  refine ⟨Spot.sound_field record_sound 0 rfl reads_lenientText ?_ ?_,
    Spot.sound_field record_sound 1 rfl reads_lenientText ?_ ?_⟩
  all_goals
    first | intro t s c h | intro s c h
    obtain rfl := Except.ok.inj h
    rfl

/-- The texts of the logic, those of one condition included. -/
def Logic.spots (i : Nat) : List (Spot Logic) :=
  [.field "onSubmit" .any false fun t l => { l with onSubmit := t },
   .field "onChange" .any false fun t l => { l with onChange := t }]
  ++ Condition.spots.map fun spot =>
    (spot.item i).member "conditions" fun g l => { l with conditions := g l.conditions }

/-- So do the texts of logic, those of its conditions among them. -/
theorem Logic.sound_spots (i : Nat) : ∀ spot ∈ spots i, spot.Sound record.decoder := by
  rw [spots, List.forall_mem_append, List.forall_mem_map]
  constructor
  · simp only [List.forall_mem_cons, List.not_mem_nil, false_implies, implies_true, and_true]
    refine ⟨Spot.sound_field record_sound 0 rfl reads_scalar ?_ ?_,
      Spot.sound_field record_sound 1 rfl reads_scalar ?_ ?_⟩
    all_goals
      first | intro t s l h | intro s l h
      obtain rfl := Except.ok.inj h
      rfl
  · intro spot hspot
    refine ((Condition.sound_spots spot hspot).item i).member record_sound 3 rfl ?_
    intro g s l cs h hcs
    obtain rfl := Except.ok.inj h
    simp [record, hcs]

/-- The texts and tags of a styling. Colors and fonts have to be texts. -/
def Styling.spots : List (Spot Styling) :=
  [.field "theme" .any false fun t s => { s with theme := (t.map Theme.ofText).getD .light },
   .field "primaryColor" .text false fun t s =>
     { s with primaryColor := t.getD Styling.default.primaryColor },
   .field "secondaryColor" .text false fun t s =>
     { s with secondaryColor := t.getD Styling.default.secondaryColor },
   .field "fontFamily" .text false fun t s =>
     { s with fontFamily := t.getD Styling.default.fontFamily }]

/-- Of styling only the theme takes any scalar; the other fields take texts. -/
theorem Styling.sound_spots : ∀ spot ∈ spots, spot.Sound record.decoder := by
  simp only [spots, List.forall_mem_cons, List.not_mem_nil, false_implies, implies_true, and_true]
  refine ⟨Spot.sound_field record_sound 0 rfl reads_tagged ?_ ?_,
    Spot.sound_field record_sound 1 rfl (reads_text Styling.default.primaryColor) ?_ ?_,
    Spot.sound_field record_sound 2 rfl (reads_text Styling.default.secondaryColor) ?_ ?_,
    Spot.sound_field record_sound 3 rfl (reads_text Styling.default.fontFamily) ?_ ?_⟩
  all_goals
    first | intro t s x h | intro s x h
    obtain rfl := Except.ok.inj h
    rfl

namespace Description

/-- The texts and tags of a description, those of one element and of one condition included. -/
def spots (i : Nat) : List (Spot Description) :=
  [.field "widgetType" .any false fun t d =>
     { d with category := (t.map Category.ofText).getD .custom },
   .field "title" .any false fun t d => { d with title := t.getD "" },
   .field "description" .any false fun t d => { d with description := t }]
  ++ (Element.spots.map fun spot =>
    (spot.item i).member "elements" fun g d => { d with elements := g d.elements })
  ++ ((Logic.spots i).map fun spot =>
    spot.optional.member "logic" fun g d => { d with logic := g d.logic })
  ++ Styling.spots.map fun spot =>
    spot.optional.member "styling" fun g d => { d with styling := g d.styling }

/-- The spots of a description are sound, those of its parts included. -/
theorem sound_spots (i : Nat) : ∀ spot ∈ spots i, spot.Sound decoder := by
  simp only [spots, List.forall_mem_append, List.forall_mem_map]
  refine ⟨⟨⟨?_, ?_⟩, ?_⟩, ?_⟩
  · simp only [List.forall_mem_cons, List.not_mem_nil, false_implies, implies_true, and_true]
    refine ⟨Spot.sound_field record_sound 0 rfl reads_tagged ?_ ?_,
      Spot.sound_field record_sound 1 rfl reads_lenientText ?_ ?_,
      Spot.sound_field record_sound 2 rfl reads_scalar ?_ ?_⟩
    all_goals
      first | intro t s x h | intro s x h
      obtain rfl := Except.ok.inj h
      rfl
  · intro spot hspot
    refine ((Element.sound_spots spot hspot).item i).member record_sound 3 rfl ?_
    -- all else of the record stays as it is when the elements change
    intro g s x es h hes
    obtain rfl := Except.ok.inj h
    simp [record, hes]
  · intro spot hspot
    refine (Logic.sound_spots i spot hspot).optional.member record_sound 4 rfl ?_
    intro g s x l h hl
    obtain rfl := Except.ok.inj h
    simp [record, hl]
  · intro spot hspot
    refine (Styling.sound_spots spot hspot).optional.member record_sound 5 rfl ?_
    intro g s x y h hy
    obtain rfl := Except.ok.inj h
    simp [record, hy]

/-- The keys of the texts that have to be texts. -/
def strictKeys : List String := ["primaryColor", "secondaryColor", "fontFamily"]

/-- Anything counts as its text but for colors and fonts, and only an id has to be there. -/
theorem spots_kinds (i : Nat) : ∀ spot ∈ spots i,
    spot.accepts = (if spot.key ∈ strictKeys then .text else .any)
      ∧ spot.required = decide (spot.key = "id") := by
  simp [spots, Element.spots, Logic.spots, Condition.spots, Styling.spots, Spot.field, Spot.member,
    Spot.item, Spot.optional, Spot.inside, strictKeys]

/-- What another scalar in the place of a text or a tag, or no member in its place, does to a
description that is read. The text of the scalar is put into the one field and nothing else changes,
except that a color or a font that is no text is refused. Left out, a field is read as from null,
except that an id is missed. -/
theorem decoder_setAt {n : Depth} {o : Origin} {v : Value} {d : Description}
    {ms : List (String × Value)} {i : Nat} {spot : Spot Description} (hspot : spot ∈ spots i)
    (hkeys : v.DistinctKeys) (hd : decoder o n v.raw = .ok d)
    (hat : v.at? spot.path = some (.object ms)) :
    (∀ s : Value, s.isScalar = true → (spot.key ∈ strictKeys → ∃ t, s = .text t) →
      decoder o n (v.setAt spot.key (some s) spot.path).raw = .ok (spot.put s.asText d))
    ∧ (∀ s : Value, s.isScalar = true → spot.key ∈ strictKeys → (∀ t, s ≠ .text t) →
      ∀ d', decoder o n (v.setAt spot.key (some s) spot.path).raw ≠ .ok d')
    ∧ (spot.key ≠ "id" →
      decoder o n (v.setAt spot.key none spot.path).raw = .ok (spot.put none d))
    ∧ (spot.key = "id" →
      ∀ d', decoder o n (v.setAt spot.key none spot.path).raw ≠ .ok d') := by
  obtain ⟨haccepts, hrequired⟩ := spots_kinds i spot hspot
  have hsound (new : Option Value) (hnew : ∀ s ∈ new, s.isScalar = true) (d' : Description) :=
    sound_spots i spot hspot hkeys hd hat new hnew d'
  have hscalar {s : Value} (hs : s.isScalar = true) : ∀ t ∈ some s, t.isScalar = true :=
    fun t ht => Option.some.inj ht ▸ hs
  have hnothing : ∀ s ∈ (none : Option Value), s.isScalar = true := fun s hs =>
    absurd hs (Option.not_mem_none s)
  refine ⟨fun s hs htext => ?_, fun s hs hstrict htext d' hd' => ?_, fun hid => ?_,
    fun hid d' hd' => ?_⟩
  · have hs' : spot.accepts s = true := by
      by_cases hstrict : spot.key ∈ strictKeys
      · obtain ⟨t, rfl⟩ := htext hstrict
        rw [haccepts, if_pos hstrict]
        rfl
      · rw [haccepts, if_neg hstrict]
        rfl
    exact (hsound (some s) (hscalar hs) _).2 ⟨_, by simp [Spot.change, hs'], rfl⟩
  · have hs' : spot.accepts s = false := by
      rw [haccepts, if_pos hstrict]
      cases s <;> first | rfl | exact absurd rfl (htext _)
    obtain ⟨g, hg, -⟩ := (hsound (some s) (hscalar hs) d').1 hd'
    simp [Spot.change, hs'] at hg
  · exact (hsound none hnothing _).2 ⟨_, by simp [Spot.change, hrequired, hid], rfl⟩
  · obtain ⟨g, hg, -⟩ := (hsound none hnothing d').1 hd'
    simp [Spot.change, hrequired, hid] at hg

/-- A document with an element and a color. -/
def colored : Value :=
  .object
    [("title", .text "T"),
     ("elements", .array [.object [("id", .text "a"), ("label", .text "L")]]),
     ("styling", .object [("primaryColor", .text "#fff")])]

/-- The description of this document. -/
def coloredDescription : Description :=
  { blank .custom "T" with
    elements := [.plain .text "a" "L"]
    styling := some { Styling.default with primaryColor := "#fff" } }

theorem decoder_setAt_colored :
    colored.DistinctKeys ∧ decoder .text deepest colored.raw = .ok coloredDescription
      ∧ decoder .text deepest
          (colored.setAt "label" (some (.bool true)) [.member "elements", .item 0]).raw
        = .ok { coloredDescription with elements := [.plain .text "a" "true"] }
      ∧ decoder .text deepest
          (colored.setAt "primaryColor" (some (.text "red")) [.member "styling"]).raw
        = .ok { coloredDescription with
            styling := some { Styling.default with primaryColor := "red" } }
      ∧ (∀ d, decoder .text deepest
          (colored.setAt "primaryColor" (some .null) [.member "styling"]).raw ≠ .ok d)
      ∧ ∀ d, decoder .text deepest
          (colored.setAt "id" none [.member "elements", .item 0]).raw ≠ .ok d := by
  have hkeys : colored.DistinctKeys := by
    simp [colored, Value.DistinctKeys, Value.DistinctKeysHere]
  have hread : decoder .text deepest colored.raw = .ok coloredDescription := rfl
  have hlabel := decoder_setAt
    (List.mem_of_getElem? (show (spots 0)[5]? = some _ from rfl)) hkeys hread rfl
  have hcolor := decoder_setAt
    (List.mem_of_getElem? (show (spots 0)[14]? = some _ from rfl)) hkeys hread rfl
  have hid := decoder_setAt
    (List.mem_of_getElem? (show (spots 0)[4]? = some _ from rfl)) hkeys hread rfl
  exact ⟨hkeys, hread, hlabel.1 (.bool true) rfl fun h => absurd h (by decide),
    hcolor.1 (.text "red") rfl fun _ => ⟨"red", rfl⟩,
    hcolor.2.1 .null rfl (by decide) nofun, hid.2.2.2 rfl⟩

/-- A number in the place of a color is refused, though it is accepted in the place of a label. -/
theorem number_refused_as_color :
    (∃ d, decoder .text deepest colored.raw = .ok d)
      ∧ (∃ d, decoder .text deepest
          (colored.setAt "label" (some (.number (.int 5))) [.member "elements", .item 0]).raw
        = .ok d)
      ∧ decoder .text deepest
          (colored.setAt "primaryColor" (some (.number (.int 5))) [.member "styling"]).raw
        = .error (.behind (.member "styling" (.member "primaryColor"
            (.mismatch (.wrongType (.number (.int 5)) "a string")))) 2) :=
  ⟨⟨_, rfl⟩, ⟨_, rfl⟩, rfl⟩

end Description

end Widgetry
