import Widgetry.Widget.Writing

/-!
What is said to the model: a system message, and a user message made of fixed text around the user's
own words. An edit shows the current document, indented, before the words.
-/

namespace Widgetry.Prompt

/-- The system message for a new widget. -/
def generateSystem : String := "You are an expert web developer and UI designer."

/-- The system message for an edit. -/
def editSystem : String := "You are an expert web developer."

/-- What comes before the request of a new widget. -/
def generateOpening : String :=
  r##"You are an expert web developer and UI designer. Your task is to convert plain-English descriptions into fully functional web widgets.

IMPORTANT: You must respond with ONLY valid JSON that follows this exact schema:

{
  "widgetType": "quiz|calculator|form|timer|todo|custom",
  "title": "Widget Title",
  "description": "Brief description",
  "elements": [
    {
      "type": "text|input|button|question|timer|todo_item|calculation",
      "id": "unique_id",
      "label": "Display text",
      "placeholder": "Placeholder text (if applicable)",
      "options": ["option1", "option2"],
      "validation": "required|email|number|optional",
      "defaultValue": "default value",
      "style": {
        "backgroundColor": "color",
        "color": "text color",
        "fontSize": "size",
        "borderRadius": "radius"
      }
    }
  ],
  "logic": {
    "onSubmit": "action description",
    "onChange": "action description",
    "calculations": ["formula1", "formula2"],
    "conditions": [
      {
        "if": "condition",
        "then": "action"
      }
    ]
  },
  "styling": {
    "theme": "light|dark|colorful",
    "primaryColor": "#color",
    "secondaryColor": "#color",
    "fontFamily": "font name"
  }
}

Rules:
- Every element "id" must be unique within the widget.
- "options" is only used by "question" elements.
- Prefer "text", "input", "button" and "question" elements; other types render as placeholders.

User request: "##

/-- What comes after the request of a new widget. -/
def generateEnding : String :=
  r"

Generate a widget that matches this description. Make it functional, beautiful, and user-friendly."

/-- What comes before the document of an edit. -/
def editOpening : String :=
  r"You are an expert web developer. The user wants to edit an existing widget using natural language.

Current widget JSON:
"

/-- What comes between the document of an edit and the instruction. -/
def editSeparator : String :=
  r"

User's edit request: "

/-- What comes after the instruction of an edit. -/
def editEnding : String :=
  r#"

Return ONLY the updated JSON with the requested changes applied. Maintain the same structure but update the relevant parts. Keep every element "id" unique."#

/-- The user message that asks for a new widget. -/
def generation (request : String) : String :=
  generateOpening ++ request ++ generateEnding

/-- The user message that asks for an edit of a document. -/
def edit (current : Description) (instruction : String) : String :=
  editOpening ++ current.value.pretty ++ editSeparator ++ instruction ++ editEnding

end Widgetry.Prompt
