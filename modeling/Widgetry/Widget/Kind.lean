import Widgetry.Text.Blank

/-!
The tags of a widget description. The category of a widget, the validation of an element and the
theme are closed sets: any other tag counts as the set's default, and case and white space around a
tag do not matter. The kind of an element is open: a tag outside the known ones is kept as it is.
-/

namespace Widgetry

/-- The member of a closed set that a text names, or the set's default. -/
def pickTag {α : Type} (tag : α → String) (all : List α) (default : α) (s : String) : α :=
  let wanted := Text.lowerAscii (Text.trim s.toList)
  (all.find? fun a => (tag a).toList == wanted).getD default

/-- The broad category of a widget. -/
inductive Category where
  | quiz
  | calculator
  | form
  | timer
  | todo
  | custom
  deriving Repr, DecidableEq

namespace Category

/-- The tag of a category. -/
def tag : Category → String
  | quiz => "quiz"
  | calculator => "calculator"
  | form => "form"
  | timer => "timer"
  | todo => "todo"
  | custom => "custom"

/-- All categories. -/
def all : List Category := [quiz, calculator, form, timer, todo, custom]

/-- The category that a text names; unknown ones are custom. -/
def ofText : String → Category := pickTag tag all custom

end Category

/-- The hint how an element's value should be checked; it is kept and not enforced. -/
inductive Validation where
  | required
  | email
  | number
  | optional
  deriving Repr, DecidableEq

namespace Validation

/-- The tag of a validation. -/
def tag : Validation → String
  | required => "required"
  | email => "email"
  | number => "number"
  | optional => "optional"

/-- All validations. -/
def all : List Validation := [required, email, number, optional]

/-- The validation that a text names; unknown ones are optional. -/
def ofText : String → Validation := pickTag tag all optional

end Validation

/-- The color theme; it is kept and not used for rendering. -/
inductive Theme where
  | light
  | dark
  | colorful
  deriving Repr, DecidableEq

namespace Theme

/-- The tag of a theme. -/
def tag : Theme → String
  | light => "light"
  | dark => "dark"
  | colorful => "colorful"

/-- All themes. -/
def all : List Theme := [light, dark, colorful]

/-- The theme that a text names; unknown ones are light. -/
def ofText : String → Theme := pickTag tag all light

end Theme

/-- The kind of an element. Texts, inputs, buttons and questions are rendered, all others are shown
as placeholders. -/
inductive ElementKind where
  | text
  | input
  | button
  | question
  | timer
  | todoItem
  | calculation
  | other (tag : String)
  deriving Repr, DecidableEq

namespace ElementKind

/-- The tag of a kind. -/
def tag : ElementKind → String
  | text => "text"
  | input => "input"
  | button => "button"
  | question => "question"
  | timer => "timer"
  | todoItem => "todo_item"
  | calculation => "calculation"
  | other t => t

/-- The kinds with a tag of their own. -/
def known : List ElementKind := [text, input, button, question, timer, todoItem, calculation]

/-- The kind of a tag, which has to match exactly. -/
def ofTag (t : String) : ElementKind :=
  (known.find? fun k => k.tag == t).getD (other t)

/-- Whether a kind is none of the known ones. -/
def isOther : ElementKind → Bool
  | other _ => true
  | _ => false

end ElementKind

end Widgetry
