import Widgetry.Component.Literal
import Widgetry.Widget.Description

/-!
Inline styles: ordered lists of properties, in which setting a property again changes its value and
not its place. The fixed styles of a component are listed here, and the styles of texts and buttons,
over which an element's own properties win.
-/

namespace Widgetry.Component

/-- A style: properties and their values in the order in which they were first set. -/
structure Style where
  entries : List (String × String)
  deriving Repr, DecidableEq

namespace Style

/-- The style without properties. -/
def empty : Style := ⟨[]⟩

/-- Sets a property in a list: in its place if it is there, else at the end. -/
def setIn (key value : String) : List (String × String) → List (String × String)
  | [] => [(key, value)]
  | (k, v) :: rest => if k = key then (key, value) :: rest else (k, v) :: setIn key value rest

/-- Sets a property. -/
def set (s : Style) (key value : String) : Style :=
  ⟨setIn key value s.entries⟩

/-- The value of a property. -/
def get? (s : Style) (key : String) : Option String :=
  (s.entries.find? fun e => e.1 == key).map Prod.snd

theorem find?_setIn_self (key value : String) (es : List (String × String)) :
    (setIn key value es).find? (fun e => e.1 == key) = some (key, value) := by
  induction es with
  | nil => simp [setIn]
  | cons e rest ih =>
    obtain ⟨k, v⟩ := e
    by_cases h : k = key <;> simp [setIn, h, ih]

theorem find?_setIn_of_ne {key other : String} (h : other ≠ key) (value : String)
    (es : List (String × String)) :
    (setIn key value es).find? (fun e => e.1 == other) = es.find? fun e => e.1 == other := by
  induction es with
  | nil => simp [setIn, Ne.symm h]
  | cons e rest ih =>
    obtain ⟨k, v⟩ := e
    by_cases hk : k = key
    · simp [setIn, hk, Ne.symm h]
    · simp [setIn, hk, List.find?_cons, ih]

@[simp] theorem get?_set_self (s : Style) (key value : String) :
    (s.set key value).get? key = some value := by
  simp [get?, set, find?_setIn_self]

theorem get?_set_of_ne {key other : String} (h : other ≠ key) (s : Style) (value : String) :
    (s.set key value).get? other = s.get? other := by
  simp [get?, set, find?_setIn_of_ne h]

/-- The number of properties. -/
def size (s : Style) : Nat := s.entries.length

/-- Sets properties one after another. -/
def setAll (s : Style) (entries : List (String × String)) : Style :=
  entries.foldl (fun s e => s.set e.1 e.2) s

/-- The style in which some properties have the values that a dictionary gives them, if it does. -/
def adopting (s : Style) (names : List String) (own : Dictionary String) : Style :=
  ⟨s.entries.map fun e => (e.1, if names.contains e.1 then (own.get? e.1).getD e.2 else e.2)⟩

end Style

/-! ## Fixed styles -/

/-- The outer box of a component. -/
def containerStyle (s : Styling) : Style :=
  ⟨[("padding", "20px"), ("borderRadius", "8px"), ("backgroundColor", s.primaryColor),
    ("fontFamily", s.fontFamily), ("maxWidth", "500px"), ("margin", "0 auto")]⟩

/-- The title. -/
def headingStyle : Style :=
  ⟨[("marginBottom", "20px"), ("color", "#333")]⟩

/-- The panel that shows the results. -/
def resultsStyle : Style :=
  ⟨[("marginTop", "20px"), ("padding", "15px"), ("backgroundColor", "#f0f0f0"),
    ("borderRadius", "4px")]⟩

/-- The box around a field. -/
def fieldStyle : Style :=
  ⟨[("marginBottom", "15px")]⟩

/-- The label of a field, and of an option. -/
def labelStyle : Style :=
  ⟨[("display", "block"), ("marginBottom", "5px")]⟩

/-- The box into which text is typed. -/
def inputStyle : Style :=
  ⟨[("width", "100%"), ("padding", "8px"), ("border", "1px solid #ddd"), ("borderRadius", "4px"),
    ("fontSize", "14px")]⟩

/-- The text of a question. -/
def promptStyle : Style :=
  ⟨[("marginBottom", "10px")]⟩

/-- The button in front of an option. -/
def radioStyle : Style :=
  ⟨[("marginRight", "8px")]⟩

/-- The box in place of an element that is not rendered. -/
def placeholderStyle : Style :=
  ⟨[("padding", "10px"), ("marginBottom", "10px"), ("border", "1px dashed #9ca3af"),
    ("borderRadius", "4px"), ("color", "#6b7280"), ("fontStyle", "italic")]⟩

/-- The properties of a text before its element's own. -/
def textDefaults : Style :=
  ⟨[("fontSize", "16px"), ("fontWeight", "normal"), ("marginBottom", "10px")]⟩

/-- The properties of a button before its element's own. -/
def buttonDefaults : Style :=
  ⟨[("backgroundColor", "#3b82f6"), ("color", "white"), ("padding", "10px 20px"),
    ("border", "none"), ("borderRadius", "4px"), ("cursor", "pointer"), ("fontSize", "16px")]⟩

/-- The style of a text element: its size and weight are looked up in the element's own style, all
of which is set then. -/
def textStyle (e : Element) : Style :=
  (textDefaults.adopting ["fontSize", "fontWeight"] e.style).setAll e.style.entries

/-- The style of a button element: its colors are looked up in the element's own style, all of which
is set then. -/
def buttonStyle (e : Element) : Style :=
  (buttonDefaults.adopting ["backgroundColor", "color"] e.style).setAll e.style.entries

end Widgetry.Component
