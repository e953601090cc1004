import Widgetry.Widget.Description

/-!
The widget that is served when the model cannot produce one: a heading, one input and a button.
-/

namespace Widgetry

/-- The widget served when the model fails. -/
def fallbackWidget : Description where
  category := .custom
  title := "Generated Widget"
  description := some "A widget based on your request"
  elements :=
    [{ Element.plain .text "title" "Your Widget" with
       style := .ofList [("fontSize", "24px"), ("fontWeight", "bold")] },
     { Element.plain .input "input1" "Input Field" with
       placeholder := some "Enter something..." },
     { Element.plain .button "submit" "Submit" with
       style := .ofList [("backgroundColor", "#3b82f6"), ("color", "white")] }]
  logic := some { Logic.empty with onSubmit := some "Process the input" }
  styling := some .default

end Widgetry
