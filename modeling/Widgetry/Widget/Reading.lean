import Widgetry.Json.Decode
import Widgetry.Widget.Description

/-!
Reading widget descriptions. Reading is lenient: where text is wanted, any value counts as its text;
null counts as an absent value or an empty list; an unknown tag counts as the default of its set.
Only an element's id has no default.
-/

namespace Widgetry

open Json (Decoder RecordField RecordKind required)

namespace Element

/-- The texts of a list of values, nulls left out. -/
def textList : Decoder (List String) := fun o d r => do
  return (← Decoder.orDefault [] (Decoder.list Decoder.value) o d r).filterMap Json.Value.asText

/-- The style of an element: the texts of an object's values, nulls left out. -/
def styleMap : Decoder (Dictionary String) := fun o d r => do
  let values ← Decoder.orDefault .empty (Decoder.map Decoder.value) o d r
  return values.filterMap Json.Value.asText

/-- A tag of a closed or open set, null standing for the given default. -/
def tagged {α : Type} (default : α) (ofText : String → α) : Decoder α := fun o d r => do
  return ((← Decoder.scalar o d r).map ofText).getD default

/-- The fields of an element read so far. -/
structure Parts where
  kind : Option ElementKind
  id : Option String
  label : Option String
  placeholder : Option (Option String)
  options : Option (List String)
  validation : Option Validation
  defaultValue : Option (Option String)
  style : Option (Dictionary String)

/-- The fields of an element in their order. -/
def fields : List (RecordField Parts) :=
  [.slot "type" (·.kind) (fun a s => { s with kind := a }) (tagged .text ElementKind.ofTag),
   .slot "id" (·.id) (fun a s => { s with id := a }) Decoder.lenientText,
   .slot "label" (·.label) (fun a s => { s with label := a }) Decoder.lenientText,
   .slot "placeholder" (·.placeholder) (fun a s => { s with placeholder := a }) Decoder.scalar,
   .slot "options" (·.options) (fun a s => { s with options := a }) textList,
   .slot "validation" (·.validation) (fun a s => { s with validation := a })
     (tagged .optional Validation.ofText),
   .slot "defaultValue" (·.defaultValue) (fun a s => { s with defaultValue := a }) Decoder.scalar,
   .slot "style" (·.style) (fun a s => { s with style := a }) styleMap]

/-- Elements as records; the id is required. -/
def record : RecordKind Parts Element where
  name := "WidgetElement"
  fields := fields
  start := ⟨none, none, none, none, none, none, none, none⟩
  complete s := do
    let id ← required "id" s.id
    return {
      kind := s.kind.getD .text
      id
      label := s.label.getD ""
      placeholder := s.placeholder.getD none
      options := s.options.getD []
      validation := s.validation.getD .optional
      defaultValue := s.defaultValue.getD none
      style := s.style.getD .empty }

end Element

namespace Condition

/-- The fields of a condition read so far. -/
structure Parts where
  condition : Option String
  action : Option String

/-- Conditions as records. -/
def record : RecordKind Parts Condition where
  name := "LogicCondition"
  fields :=
    [.slot "if" (·.condition) (fun a s => { s with condition := a }) Decoder.lenientText,
     .slot "then" (·.action) (fun a s => { s with action := a }) Decoder.lenientText]
  start := ⟨none, none⟩
  complete s := .ok ⟨s.condition.getD "", s.action.getD ""⟩

end Condition

namespace Logic

/-- The fields of the logic read so far. -/
structure Parts where
  onSubmit : Option (Option String)
  onChange : Option (Option String)
  calculations : Option (List String)
  conditions : Option (List Condition)

/-- Logic as a record. -/
def record : RecordKind Parts Logic where
  name := "WidgetLogic"
  fields :=
    [.slot "onSubmit" (·.onSubmit) (fun a s => { s with onSubmit := a }) Decoder.scalar,
     .slot "onChange" (·.onChange) (fun a s => { s with onChange := a }) Decoder.scalar,
     .slot "calculations" (·.calculations) (fun a s => { s with calculations := a })
       Element.textList,
     .slot "conditions" (·.conditions) (fun a s => { s with conditions := a })
       (Decoder.orDefault [] (Decoder.list Condition.record.decoder))]
  start := ⟨none, none, none, none⟩
  complete s :=
    .ok ⟨s.onSubmit.getD none, s.onChange.getD none, s.calculations.getD [], s.conditions.getD []⟩

end Logic

namespace Styling

/-- The fields of a styling read so far. -/
structure Parts where
  theme : Option Theme
  primaryColor : Option String
  secondaryColor : Option String
  fontFamily : Option String

/-- Styling as a record; every field has a default, and colors and fonts have to be text. -/
def record : RecordKind Parts Styling where
  name := "WidgetStyling"
  fields :=
    [.slot "theme" (·.theme) (fun a s => { s with theme := a })
       (Element.tagged .light Theme.ofText),
     .slot "primaryColor" (·.primaryColor) (fun a s => { s with primaryColor := a })
       Decoder.text,
     .slot "secondaryColor" (·.secondaryColor) (fun a s => { s with secondaryColor := a })
       Decoder.text,
     .slot "fontFamily" (·.fontFamily) (fun a s => { s with fontFamily := a }) Decoder.text]
  start := ⟨none, none, none, none⟩
  complete s := .ok {
    theme := s.theme.getD Styling.default.theme
    primaryColor := s.primaryColor.getD Styling.default.primaryColor
    secondaryColor := s.secondaryColor.getD Styling.default.secondaryColor
    fontFamily := s.fontFamily.getD Styling.default.fontFamily }

end Styling

namespace Description

/-- The fields of a description read so far. -/
structure Parts where
  category : Option Category
  title : Option String
  description : Option (Option String)
  elements : Option (List Element)
  logic : Option (Option Logic)
  styling : Option (Option Styling)

/-- Descriptions as records. -/
def record : RecordKind Parts Description where
  name := "WidgetDescription"
  fields :=
    [.slot "widgetType" (·.category) (fun a s => { s with category := a })
       (Element.tagged .custom Category.ofText),
     .slot "title" (·.title) (fun a s => { s with title := a }) Decoder.lenientText,
     .slot "description" (·.description) (fun a s => { s with description := a }) Decoder.scalar,
     .slot "elements" (·.elements) (fun a s => { s with elements := a })
       (Decoder.orDefault [] (Decoder.list Element.record.decoder)),
     .slot "logic" (·.logic) (fun a s => { s with logic := a })
       (Decoder.nullable Logic.record.decoder),
     .slot "styling" (·.styling) (fun a s => { s with styling := a })
       (Decoder.nullable Styling.record.decoder)]
  start := ⟨none, none, none, none, none, none⟩
  complete s := .ok {
    category := s.category.getD .custom
    title := s.title.getD ""
    description := s.description.getD none
    elements := s.elements.getD []
    logic := s.logic.getD none
    styling := s.styling.getD none }

/-- Reads a description. -/
def decoder : Decoder Description := record.decoder

/-- Reads the description that a text holds. -/
def parse (text : String) : Except Json.Error Description :=
  decoder.ofText text

end Description

end Widgetry
