import Widgetry.Dictionary
import Widgetry.Widget.Kind

/-!
Widget descriptions: documents that fully specify a widget that can be rendered.
-/

namespace Widgetry

/-- One unit of a widget, shown or interactive. The placeholder belongs to inputs, the options
belong to questions. -/
structure Element where
  kind : ElementKind
  id : String
  label : String
  placeholder : Option String
  options : List String
  validation : Validation
  defaultValue : Option String
  style : Dictionary String
  deriving DecidableEq

/-- An element with nothing but a kind, an id and a label. -/
def Element.plain (kind : ElementKind) (id label : String) : Element :=
  ⟨kind, id, label, none, [], .optional, none, .empty⟩

/-- A hint what happens under a condition. -/
structure Condition where
  condition : String
  action : String
  deriving Repr, DecidableEq

/-- Hints in free text how a widget behaves. -/
structure Logic where
  onSubmit : Option String
  onChange : Option String
  calculations : List String
  conditions : List Condition
  deriving Repr, DecidableEq

/-- Logic without any hint. -/
def Logic.empty : Logic := ⟨none, none, [], []⟩

/-- Styling of a whole widget. -/
structure Styling where
  theme : Theme
  primaryColor : String
  secondaryColor : String
  fontFamily : String
  deriving Repr, DecidableEq

/-- The styling of a widget that has none of its own. -/
def Styling.default : Styling := ⟨.light, "#3b82f6", "#6b7280", "Arial, sans-serif"⟩

/-- A widget description. Elements are rendered in their order. -/
structure Description where
  category : Category
  title : String
  description : Option String
  elements : List Element
  logic : Option Logic
  styling : Option Styling
  deriving DecidableEq

namespace Description

/-- A description without elements. -/
def blank (category : Category) (title : String) : Description :=
  ⟨category, title, none, [], none, none⟩

/-- The styling, with the default where the document has none. -/
def effectiveStyling (d : Description) : Styling :=
  d.styling.getD .default

/-- The ids of the elements in document order. -/
def ids (d : Description) : List String :=
  d.elements.map (·.id)

end Description

end Widgetry
