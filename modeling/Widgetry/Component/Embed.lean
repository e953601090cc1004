import Widgetry.Component.Literal

/-!
The snippet that puts a hosted widget into a page: a container, and a script that loads the widget's
bundle. Title, widget id and address are arbitrary text, and none of them can break out of its
place.
-/

namespace Widgetry.Component

/-- Where bundles are hosted unless another address is given. -/
def defaultCdn : String := "https://cdn.storyweave.ai"

/-- A character of an attribute value. -/
def htmlChar (c : Char) : List Char :=
  if c == '"' then ['&', '#', '3', '4', ';']
  else if c == '&' then ['&', '#', '3', '8', ';']
  else if c == '\'' then ['&', '#', '3', '9', ';']
  else if c == '<' then ['&', '#', '6', '0', ';']
  else if c == '>' then ['&', '#', '6', '2', ';']
  else [c]

/-- An embed snippet: the container's id, the address of the bundle, and the text to paste. -/
structure Embed where
  containerId : String
  scriptUrl : String
  code : String
  deriving Repr, DecidableEq

/-- The comment that names the widget, without an ending when the title leaves nothing to say. -/
def embedComment (title : String) : List Char :=
  let c := comment title
  "  // Widget embed code".toList ++ if c.isEmpty then [] else " for ".toList ++ c

/-- The script before the address of the bundle. -/
def codeBeforeAddress : String :=
  r"
  (function() {
    var script = document.createElement('script');
    script.src = "

/-- The script after the address of the bundle, and its end. -/
def codeAfterAddress : String :=
  r";
    script.async = true;
    document.head.appendChild(script);
  })();
</script>
"

/-- The text of a snippet. -/
def embedCode (title containerId scriptUrl : String) : List Char :=
  "<div id=\"".toList ++ containerId.toList.flatMap htmlChar ++ "\"></div>\n<script>\n".toList
  ++ embedComment title
  ++ codeBeforeAddress.toList ++ literal scriptUrl ++ codeAfterAddress.toList

/-- The snippet of a widget by its title and id; slashes at the end of the address do not count. -/
def Embed.of (title widgetId cdn : String) : Embed :=
  let containerId := "storyweave-widget-" ++ widgetId
  let scriptUrl := Text.dropTrailing '/' cdn ++ "/widgets/" ++ widgetId ++ ".js"
  ⟨containerId, scriptUrl, String.ofList (embedCode title containerId scriptUrl)⟩

end Widgetry.Component
