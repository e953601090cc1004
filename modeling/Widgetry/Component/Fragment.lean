import Widgetry.Component.Name
import Widgetry.Component.Style
import Widgetry.Widget.Repair

/-!
Components before they are written out: every element becomes one fragment. The kinds without a
rendering of their own become placeholders that show what is missing. Two elements with one id would
share their data, so a document with a repeated id has no component.
-/

namespace Widgetry.Component

/-- What is rendered for one element. -/
inductive Fragment where
  | text (id content : String) (style : Style)
  | input (id label placeholder : String)
  | button (id label : String) (style : Style)
  | question (id label : String) (options : List String)
  | placeholder (id kind message : String)
  deriving Repr, DecidableEq

/-- What a placeholder says: the kind, and the label unless it is blank. -/
def placeholderMessage (kind label : String) : String :=
  if Text.isBlankText label then "Unsupported element: " ++ kind
  else "Unsupported element (" ++ kind ++ "): " ++ label

/-- The fragment of an element. -/
def Fragment.ofElement (e : Element) : Fragment :=
  match e.kind with
  | .text => .text e.id e.label (textStyle e)
  | .input => .input e.id e.label (e.placeholder.getD "")
  | .button => .button e.id e.label (buttonStyle e)
  | .question => .question e.id e.label e.options
  | kind => .placeholder e.id kind.tag (placeholderMessage kind.tag e.label)

/-- Whether a fragment stands in for an element that is not rendered. -/
def Fragment.isPlaceholder : Fragment → Bool
  | .placeholder .. => true
  | _ => false

/-- Why code cannot be generated. -/
inductive Error where
  | duplicateElementId (id : String)
  | rendering (reason : String)
  deriving Repr, DecidableEq

/-- The parts of the message of an error. -/
def Error.parts : Error → List String
  | .duplicateElementId id => (Issue.duplicateElementId id).parts
  | .rendering reason => ["template rendering failed: ", reason]

/-- The message of an error. -/
def Error.message (e : Error) : String := String.join e.parts

/-- A component: its name, and what it shows. -/
structure Layout where
  name : String
  title : String
  container : Style
  fragments : List Fragment
  deriving Repr, DecidableEq

/-- The component of a description with distinct ids; the first id that is repeated is an error. -/
def Layout.ofDescription (d : Description) : Except Error Layout :=
  match d.duplicateIds with
  | id :: _ => .error (.duplicateElementId id)
  | [] => .ok {
      name := Component.name d.title
      title := d.title
      container := containerStyle d.effectiveStyling
      fragments := d.elements.map Fragment.ofElement }

end Widgetry.Component
