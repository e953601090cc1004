import Widgetry.Json.Printer
import Widgetry.Widget.Description

/-!
Writing widget descriptions as documents. Absent texts and empty lists are left out; the category,
the elements, and an element's kind, id, label and validation are always written.
-/

namespace Widgetry

open Json (Value)

/-- A member that is written when its value is there. -/
def optionalMember (key : String) (s : Option String) : List (String × Value) :=
  match s with
  | some s => [(key, .text s)]
  | none => []

/-- A list member that is written when it has items. -/
def listMember {α : Type} (key : String) (write : α → Value) (items : List α) :
    List (String × Value) :=
  if items.isEmpty then [] else [(key, .array (items.map write))]

/-- The document of an element. -/
def Element.value (e : Element) : Value :=
  .object (
    [("type", .text e.kind.tag), ("id", .text e.id), ("label", .text e.label)]
    ++ optionalMember "placeholder" e.placeholder
    ++ listMember "options" .text e.options
    ++ [("validation", .text e.validation.tag)]
    ++ optionalMember "defaultValue" e.defaultValue
    ++ if e.style.isEmpty then []
       else [("style", .object (e.style.entries.map fun (k, v) => (k, .text v)))])

/-- The document of a condition. -/
def Condition.value (c : Condition) : Value :=
  .object [("if", .text c.condition), ("then", .text c.action)]

/-- The document of the logic. -/
def Logic.value (l : Logic) : Value :=
  .object (
    optionalMember "onSubmit" l.onSubmit
    ++ optionalMember "onChange" l.onChange
    ++ listMember "calculations" .text l.calculations
    ++ listMember "conditions" Condition.value l.conditions)

/-- The document of a styling. -/
def Styling.value (s : Styling) : Value :=
  .object
    [("theme", .text s.theme.tag), ("primaryColor", .text s.primaryColor),
     ("secondaryColor", .text s.secondaryColor), ("fontFamily", .text s.fontFamily)]

/-- The document of a description. -/
def Description.value (d : Description) : Value :=
  .object (
    [("widgetType", .text d.category.tag), ("title", .text d.title)]
    ++ optionalMember "description" d.description
    ++ [("elements", .array (d.elements.map Element.value))]
    ++ (match d.logic with
      | some l => [("logic", l.value)]
      | none => [])
    ++ (match d.styling with
      | some s => [("styling", s.value)]
      | none => []))

/-- The compact text of a description. -/
def Description.text (d : Description) : String :=
  d.value.compact

end Widgetry
