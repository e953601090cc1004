import Widgetry.Component.Fragment

/-!
The source of a component. Source is a list of chunks: code that this library wrote, and literals
that hold the texts of the document. Nothing of a document reaches the source but through literals,
the name of the component, and the bare names of style properties.
-/

namespace Widgetry.Component

/-- A chunk of source. -/
inductive Chunk where
  | code (s : String)
  | literal (s : String)
  deriving Repr, DecidableEq

/-- The characters of a chunk. -/
def Chunk.print : Chunk → List Char
  | .code s => s.toList
  | .literal s => Component.literal s

/-- The text of chunks. -/
def printChunks (chunks : List Chunk) : List Char :=
  chunks.flatMap Chunk.print

/-! ## 1. Styles -/

/-- A property of a style. -/
def propertyChunks (e : String × String) : List Chunk :=
  (if isBareName e.1 then .code e.1 else .literal e.1) :: [.code ": ", .literal e.2]

/-- Properties with commas between them. -/
def propertiesChunks : List (String × String) → List Chunk
  | [] => []
  | [e] => propertyChunks e
  | e :: es => propertyChunks e ++ .code ", " :: propertiesChunks es

/-- A style as an object. -/
def Style.chunks (s : Style) : List Chunk :=
  if s.entries.isEmpty then [.code r"{}"]
  else .code r"{ " :: propertiesChunks s.entries ++ [.code r" }"]

/-- The text of a style as an object. -/
def Style.print (s : Style) : String :=
  String.ofList (printChunks s.chunks)

/-! ## 2. Attributes -/

/-- Chunks between braces. -/
def inBraces (chunks : List Chunk) : List Chunk :=
  .code r"{" :: chunks ++ [.code r"}"]

/-- An attribute whose value is a literal. -/
def textAttribute (name value : String) : List Chunk :=
  .code (name ++ "=") :: inBraces [.literal value]

/-- A style attribute. -/
def styleAttribute (s : Style) : List Chunk :=
  .code "style=" :: inBraces s.chunks

/-- A literal as the content of a tag. -/
def content (s : String) : List Chunk :=
  inBraces [.literal s]

/-- The place of a field's value in the data of the form. -/
def formData (id : String) : List Chunk :=
  [.code "formData[", .literal id, .code "]"]

/-- The attribute that stores a changed value. -/
def changeAttribute (id : String) : List Chunk :=
  [.code r"onChange={e => handleInputChange(", .literal id, .code r", e.target.value)}"]

/-- The attribute that submits the data on a click, with the blanks on both sides. -/
def clickAttribute : String :=
  r"
        onClick={handleSubmit}
        "

/-! ## 3. Fragments -/

/-- The opening tag of a fragment's box with further attributes. -/
def openBox (id : String) (attributes : List Chunk) : List Chunk :=
  .code "      <div " :: textAttribute "data-element-id" id
  ++ .code " " :: attributes ++ [.code ">\n"]

/-- The closing tag of a fragment's box. -/
def closeBox : List Chunk := [.code "      </div>"]

/-- One option of a question. -/
def optionChunks (id : String) (index : Nat) (option : String) : List Chunk :=
  .code "\n        <label key=" :: inBraces [.code (toString index)]
  ++ .code " " :: styleAttribute labelStyle
  ++ .code ">\n          <input\n            type=\"radio\"\n            " :: textAttribute "name" id
  ++ .code "\n            " :: textAttribute "value" option
  ++ .code "\n            checked="
    :: inBraces (formData id ++ [.code " === ", .literal option])
  ++ .code "\n            " :: changeAttribute id
  ++ .code "\n            " :: styleAttribute radioStyle
  ++ .code "\n          />\n          " :: content option
  ++ [.code "\n        </label>"]

/-- Options from an index on. -/
def optionsChunks (id : String) (index : Nat) : List String → List Chunk
  | [] => []
  | o :: os => optionChunks id index o ++ optionsChunks id (index + 1) os

/-- The source of a fragment. -/
def Fragment.chunks : Fragment → List Chunk
  | .text id body style =>
    openBox id (styleAttribute style)
    ++ .code "        " :: content body ++ .code "\n" :: closeBox
  | .input id label hint =>
    openBox id (styleAttribute fieldStyle)
    ++ .code "        <label " :: styleAttribute labelStyle
    ++ .code ">" :: content label
    ++ .code "</label>\n        <input\n          type=\"text\"\n          "
      :: textAttribute "placeholder" hint
    ++ .code "\n          value=" :: inBraces (formData id ++ [.code " || ''"])
    ++ .code "\n          " :: changeAttribute id
    ++ .code "\n          " :: styleAttribute inputStyle
    ++ .code "\n        />\n" :: closeBox
  | .button id label style =>
    .code "      <button\n        " :: textAttribute "data-element-id" id
    ++ .code clickAttribute :: styleAttribute style
    ++ .code "\n      >\n        " :: content label
    ++ [.code "\n      </button>"]
  | .question id label options =>
    openBox id (styleAttribute fieldStyle)
    ++ .code "        <p " :: styleAttribute promptStyle
    ++ .code ">" :: content label
    ++ .code "</p>" :: optionsChunks id 0 options
    ++ .code "\n" :: closeBox
  | .placeholder id kind message =>
    openBox id (textAttribute "data-placeholder-for" kind
      ++ .code " " :: styleAttribute placeholderStyle)
    ++ .code "        " :: content message ++ .code "\n" :: closeBox

/-! ## 4. The component -/

/-- The code before the name. -/
def codeBeforeName : String :=
  r"import React, { useState } from 'react';

const "

/-- The code from the name to the outer box. -/
def codeBeforeBox : String :=
  r" = () => {
  const [formData, setFormData] = useState({});
  const [results, setResults] = useState(null);

  const handleInputChange = (id, value) => {
    setFormData(prev => ({
      ...prev,
      [id]: value
    }));
  };

  const handleSubmit = () => {
    setResults(formData);
  };

  return (
    <div "

/-- The code before the style of the panel. -/
def codeBeforePanel : String :=
  r"
      {results && (
        <div "

/-- The code after the panel's opening tag up to the name at the end. -/
def codeAfterPanel : String :=
  r">
          <h3>Results:</h3>
          <pre>{JSON.stringify(results, null, 2)}</pre>
        </div>
      )}
    </div>
  );
};

" ++ "export default "

/-- The source of a component. -/
def Layout.chunks (l : Layout) : List Chunk :=
  [.code codeBeforeName, .code l.name, .code codeBeforeBox]
  ++ styleAttribute l.container
  ++ .code ">\n      <h2 " :: styleAttribute headingStyle
  ++ .code ">" :: content l.title
  ++ .code "</h2>" :: l.fragments.flatMap (fun f => .code "\n" :: f.chunks)
  ++ .code codeBeforePanel :: styleAttribute resultsStyle
  ++ [.code codeAfterPanel, .code l.name, .code ";\n"]

/-- A component that was written out. -/
structure Source where
  name : String
  code : String
  deriving Repr, DecidableEq

/-- The source of a component. -/
def Layout.source (l : Layout) : Source :=
  ⟨l.name, String.ofList (printChunks l.chunks)⟩

/-- The source of a description's component. -/
def emit (d : Description) : Except Error Source :=
  (Layout.ofDescription d).map Layout.source

end Widgetry.Component
