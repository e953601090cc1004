import Widgetry.CommandLine.Saved
import Widgetry.Proofs.Json.Holding
import Widgetry.Proofs.Json.Lexeme
import Widgetry.Proofs.Json.Likeness
import Widgetry.Proofs.Widget.Grammar

/-!
A description is read the same on either way: from its text in one pass, or from the value that the
text was read to before. Main statement: on a text that can be parsed and repeats no key both ways
agree, and what is read does not depend on the order of members, on members that no field has, or on
white space between tokens (`Description.parse_agrees`).

Either way a description is looked up field by field, so it is enough to say for every field which
values make no difference to it. A table of these likenesses stands beside each record, and each
record agrees with its table.
-/

namespace Widgetry

open Json

/-! ## 1. Likenesses of fields -/

namespace Element

/-- A tag is read as the same from values that are the same. -/
theorem agrees_tagged {α : Type} {default : α} {ofText : String → α} :
    (tagged default ofText).Agrees .same :=
  Decoder.agrees_of_sorted (f := fun v => (v.asText.map ofText).getD default) tagged_eq_ok

theorem agrees_textList : textList.Agrees (.arrayOf .same) :=
  Decoder.agrees_value.list.orDefault.map textList_eq_ok_iff

/-- A style is read as the same whatever the order of its properties is. -/
theorem agrees_styleMap : styleMap.Agrees .same :=
  Decoder.agrees_map.orDefault.map styleMap_eq_ok_iff

/-- Which values make no difference to the fields of an element. -/
def likenesses : List (String × Likeness) :=
  [("type", .same), ("id", .same), ("label", .same), ("placeholder", .same),
   ("options", .arrayOf .same), ("validation", .same), ("defaultValue", .same), ("style", .same)]

/-- Values that make no difference to an element. -/
def Alike : Likeness := .record likenesses

theorem agrees : record.Agrees likenesses where
  sound := record_sound
  fields :=
    .cons (RecordField.agrees_slot agrees_tagged) <|
    .cons (RecordField.agrees_slot Decoder.agrees_lenientText) <|
    .cons (RecordField.agrees_slot Decoder.agrees_lenientText) <|
    .cons (RecordField.agrees_slot Decoder.agrees_scalar) <|
    .cons (RecordField.agrees_slot agrees_textList) <|
    .cons (RecordField.agrees_slot agrees_tagged) <|
    .cons (RecordField.agrees_slot Decoder.agrees_scalar) <|
    .cons (RecordField.agrees_slot agrees_styleMap) .nil

end Element

namespace Condition

/-- Which values make no difference to the fields of a condition. -/
def likenesses : List (String × Likeness) :=
  [("if", .same), ("then", .same)]

/-- Values that make no difference to a condition. -/
def Alike : Likeness := .record likenesses

theorem agrees : record.Agrees likenesses where
  sound := record_sound
  fields :=
    .cons (RecordField.agrees_slot Decoder.agrees_lenientText) <|
    .cons (RecordField.agrees_slot Decoder.agrees_lenientText) .nil

end Condition

namespace Logic

/-- Which values make no difference to the fields of the logic. -/
def likenesses : List (String × Likeness) :=
  [("onSubmit", .same), ("onChange", .same), ("calculations", .arrayOf .same),
   ("conditions", .arrayOf Condition.Alike)]

/-- Values that make no difference to the logic. -/
def Alike : Likeness := .record likenesses

theorem agrees : record.Agrees likenesses where
  sound := record_sound
  fields :=
    .cons (RecordField.agrees_slot Decoder.agrees_scalar) <|
    .cons (RecordField.agrees_slot Decoder.agrees_scalar) <|
    .cons (RecordField.agrees_slot Element.agrees_textList) <|
    .cons (RecordField.agrees_slot Condition.agrees.decoder.list.orDefault) .nil

end Logic

namespace Styling

/-- Which values make no difference to the fields of a styling. -/
def likenesses : List (String × Likeness) :=
  [("theme", .same), ("primaryColor", .same), ("secondaryColor", .same), ("fontFamily", .same)]

/-- Values that make no difference to a styling. -/
def Alike : Likeness := .record likenesses

theorem agrees : record.Agrees likenesses where
  sound := record_sound
  fields :=
    .cons (RecordField.agrees_slot Element.agrees_tagged) <|
    .cons (RecordField.agrees_slot Decoder.agrees_text) <|
    .cons (RecordField.agrees_slot Decoder.agrees_text) <|
    .cons (RecordField.agrees_slot Decoder.agrees_text) .nil

end Styling

namespace Description

/-- Which values make no difference to the fields of a description. -/
def likenesses : List (String × Likeness) :=
  [("widgetType", .same), ("title", .same), ("description", .same),
   ("elements", .arrayOf Element.Alike), ("logic", Logic.Alike), ("styling", Styling.Alike)]

/-- Values that make no difference to a description: wherever it holds a record the same fields are
there, in any order and among any other members. -/
def Alike : Likeness := .record likenesses

theorem agrees : record.Agrees likenesses where
  sound := record_sound
  fields :=
    .cons (RecordField.agrees_slot Element.agrees_tagged) <|
    .cons (RecordField.agrees_slot Decoder.agrees_lenientText) <|
    .cons (RecordField.agrees_slot Decoder.agrees_scalar) <|
    .cons (RecordField.agrees_slot Element.agrees.decoder.list.orDefault) <|
    .cons (RecordField.agrees_slot Logic.agrees.decoder.nullable) <|
    .cons (RecordField.agrees_slot Styling.agrees.decoder.nullable) .nil

/-! ## 2. Descriptions -/

/-- Descriptions are read as the same from values that are alike. -/
theorem decoder_agrees : decoder.Agrees Alike :=
  agrees.decoder

variable {text text' : String} {v v' : Value}

/-- Texts of alike values are read alike. -/
theorem parse_eq_ok_iff_of_alike (h : Holds text v) (h' : Holds text' v') (hkeys : v.DistinctKeys)
    (hkeys' : v'.DistinctKeys) (halike : Alike v v') (d : Description) :
    parse text = .ok d ↔ parse text' = .ok d := by
  rw [parse, parse, h.ofText_eq_ok_iff, h'.ofText_eq_ok_iff]
  exact decoder_agrees.reads hkeys hkeys' h.depth h'.depth halike d

/-- A value that was read before makes the same description as its text does in one pass. -/
theorem parse_eq_ok_iff_ofValue (h : Holds text v) (hkeys : v.DistinctKeys) (d : Description) :
    parse text = .ok d ↔ decoder.ofValue v.sorted = .ok d := by
  have hsorted := distinctKeys_sorted hkeys
  have halike : Alike v v.sorted :=
    decoder_agrees.lawful.of_same hkeys hsorted (sorted_sorted hkeys).symm
  rw [parse, h.ofText_eq_ok_iff, Decoder.ofValue, mapError_eq_ok_iff]
  exact decoder_agrees.reads hkeys hsorted h.depth (Nat.le_refl _) halike d

/-- A file that holds no response of a server is read as the description of its text. -/
theorem saved_parse_eq_ok_iff (h : Holds text v) (hkeys : v.DistinctKeys)
    (hbare : v.sorted.member? "widget_data" = none) (s : CommandLine.Saved) :
    CommandLine.Saved.parse text = .ok s ↔ ∃ d, parse text = .ok d ∧ s = ⟨d, none⟩ := by
  have hparse : Value.parse text = .ok v.sorted := Value.parse_eq_ok_iff.2 ⟨v, h, rfl⟩
  have hsaved : CommandLine.Saved.parse text
      = (decoder.ofValue v.sorted).map fun d => ⟨d, none⟩ := by
    rw [CommandLine.Saved.parse, hparse]
    dsimp only
    rw [CommandLine.Saved.ofValue, hbare]
    rfl
  simp only [parse_eq_ok_iff_ofValue h hkeys]
  rw [hsaved]
  cases decoder.ofValue v.sorted <;> simp [Except.map, eq_comm]

/-- The texts that can be parsed are those that hold a value, and parsing sorts its members. Where
no key is repeated, a description is read from the text in one pass exactly if it is made of the
parsed value, also as a file is loaded that holds no response. The same description is read from any
text whose value has its members in another order, or other members that no field has, or that has
other white space between its tokens; such a text that is refused has the same error, though maybe
at another place. -/
theorem parse_agrees (text : String) :
    (∀ w, Value.parse text = .ok w ↔ ∃ v, Holds text v ∧ v.sorted = w)
      ∧ ∀ v, Holds text v → v.DistinctKeys →
        (∀ w d, Value.parse text = .ok w → (parse text = .ok d ↔ decoder.ofValue w = .ok d))
        ∧ (∀ w s, Value.parse text = .ok w → w.member? "widget_data" = none →
          (CommandLine.Saved.parse text = .ok s ↔ ∃ d, parse text = .ok d ∧ s = ⟨d, none⟩))
        ∧ (∀ text' v', Holds text' v' → v.Reordered v' →
          ∀ d, parse text = .ok d ↔ parse text' = .ok d)
        ∧ (∀ text' v', Holds text' v' → v'.DistinctKeys → Alike v v' →
          ∀ d, parse text = .ok d ↔ parse text' = .ok d)
        ∧ ∀ text', lexemes text.toList = lexemes text'.toList →
          (parse text).mapError Error.unplaced = (parse text').mapError Error.unplaced := by
  refine ⟨fun w => Value.parse_eq_ok_iff, fun v h hkeys => ?_⟩
  have hparse {w : Value} (hw : Value.parse text = .ok w) : w = v.sorted := by
    rw [Value.parse_eq_ok_iff.2 ⟨v, h, rfl⟩] at hw
    exact (Except.ok.inj hw).symm
  refine ⟨?_, ?_, ?_, ?_, ?_⟩
  · intro w d hw
    rw [hparse hw]
    exact parse_eq_ok_iff_ofValue h hkeys d
  · intro w s hw hbare
    rw [hparse hw] at hbare
    exact saved_parse_eq_ok_iff h hkeys hbare s
  · intro text' v' h' hreordered
    have hkeys' := hreordered.distinctKeys hkeys
    have halike : Alike v v' :=
      decoder_agrees.lawful.of_same hkeys hkeys' (hreordered.sorted_eq hkeys)
    exact parse_eq_ok_iff_of_alike h h' hkeys hkeys' halike
  · intro text' v' h' hkeys' halike
    exact parse_eq_ok_iff_of_alike h h' hkeys hkeys' halike
  · intro text' hlexemes
    exact Decoder.ofText_unplaced_of_tree_eq (ofText_eq_of_lexemes_eq hlexemes)

/-- A document with an element and a styling in array form. -/
def tip : Value :=
  .object
    [("title", .text "Tip"),
     ("elements", .array
       [.object [("id", .text "a"), ("label", .null)], .array [.text "Input", .bool true]]),
     ("styling", .array [.text "dark"])]

/-- The same with its members in another order. -/
def tipReordered : Value :=
  .object
    [("elements", .array
       [.object [("id", .text "a"), ("label", .null)], .array [.text "Input", .bool true]]),
     ("title", .text "Tip"), ("styling", .array [.text "dark"])]

/-- The same with members that no field has. -/
def tipExtended : Value :=
  .object
    [("hint", .object [("id", .null)]), ("styling", .array [.text "dark"]), ("title", .text "Tip"),
     ("elements", .array
       [.object [("label", .null), ("hint", .array []), ("id", .text "a")],
        .array [.text "Input", .bool true]])]

/-- The same with white space around its tokens. -/
def tipSpaced : String :=
  r#" {"title" : "Tip","# ++ "\n\t"
    ++ r#""elements": [ {"id":"a", "label":null} , ["Input", true]], "styling":["dark"] }"#
    ++ "\r\n"

/-- A legible value is what its compact text holds. -/
theorem holds_compact {v : Value} (hlegible : v.Legible) (hdepth : v.nesting ≤ deepest) :
    Holds v.compact v :=
  ⟨ofText_compact hlegible, hdepth⟩

theorem parse_agrees_tip :
    Holds tip.compact tip ∧ tip.DistinctKeys
      ∧ ∃ d, parse tip.compact = .ok d ∧ decoder.ofValue tip.sorted = .ok d
        ∧ CommandLine.Saved.parse tip.compact = .ok ⟨d, none⟩
        ∧ parse tipReordered.compact = .ok d ∧ parse tipExtended.compact = .ok d
        ∧ parse tipSpaced = .ok d := by
  have hkeys : tip.DistinctKeys := by simp [tip, Value.DistinctKeys, Value.DistinctKeysHere]
  have hkeys' : tipExtended.DistinctKeys := by
    simp [tipExtended, Value.DistinctKeys, Value.DistinctKeysHere]
  have htip : Holds tip.compact tip :=
    holds_compact (by simp [tip, Value.Legible, Value.LegibleHere]) (by decide)
  have hreordered : Holds tipReordered.compact tipReordered :=
    holds_compact (by simp [tipReordered, Value.Legible, Value.LegibleHere]) (by decide)
  have hextended : Holds tipExtended.compact tipExtended :=
    holds_compact (by simp [tipExtended, Value.Legible, Value.LegibleHere]) (by decide)
  have hperm : tip.Reordered tipReordered := .permuted (.swap _ _ _)
  have halike : Alike tip tipExtended := by
    simp [tip, tipExtended, Alike, Element.Alike, Styling.Alike, Likeness.record, Likeness.arrayOf,
      Likeness.same, Likeness.MembersAlike, Likeness.underNames, likenesses, Element.likenesses,
      Styling.likenesses, Value.member?]
  have hlexemes : lexemes tip.compact.toList = lexemes tipSpaced.toList := by decide +kernel
  obtain ⟨hvalues, hagree⟩ := parse_agrees tip.compact
  obtain ⟨hvalue, hsaved, hmembers, hunknown, hspace⟩ := hagree tip htip hkeys
  have hparse : Value.parse tip.compact = .ok tip.sorted := (hvalues _).2 ⟨tip, htip, rfl⟩
  have hshape : shape tip = true := by decide
  obtain ⟨d, hd⟩ := (describes.accepts hkeys htip.depth (o := .text)).2 hshape
  replace hd : parse tip.compact = .ok d := by
    rw [parse, htip.ofText_eq_ok_iff]
    exact hd
  refine ⟨htip, hkeys, d, hd, (hvalue _ d hparse).1 hd, ?_, ?_, ?_, ?_⟩
  · exact (hsaved _ _ hparse (by decide)).2 ⟨d, hd, rfl⟩
  · exact (hmembers _ _ hreordered hperm d).1 hd
  · exact (hunknown _ _ hextended hkeys' halike d).1 hd
  · have hspaced := hspace tipSpaced hlexemes
    rw [hd] at hspaced
    exact mapError_eq_ok_iff.1 hspaced.symm

end Description

end Widgetry
