import Widgetry.Model.Error
import Widgetry.Text.Blank
import Widgetry.Widget.Reading

/-!
The description in a model's reply. The whole reply, white space around it aside, has to be the
document; where prose around it is allowed, the span from the first opening to the last closing
brace is tried when the whole is not.
-/

namespace Widgetry

/-- How strictly a reply is read. -/
inductive Strictness where
  | strict
  | embedded
  deriving Repr, DecidableEq

/-- The text up to the last closing brace. -/
def throughLastBrace (cs : List Char) : List Char :=
  (cs.reverse.dropWhile (· != '}')).reverse

/-- The span from the first opening to the last closing brace, if there is one. -/
def embeddedSpan (cs : List Char) : Option (List Char) :=
  let span := throughLastBrace (cs.dropWhile (· != '{'))
  if span.isEmpty then none else some span

/-- The description that a reply holds. -/
def readContent (strictness : Strictness) (content : String) : Except ModelError Description :=
  let body := Text.trim content.toList
  let refuse {α : Type} (e : Json.Error) : Except ModelError α :=
    .error (.invalidJson e.text)
  if body.isEmpty then .error .emptyResponse
  else
    match Description.parse (String.ofList body) with
    | .ok d => .ok d
    | .error whole =>
      match strictness with
      | .strict => refuse whole
      | .embedded =>
        match embeddedSpan body with
        | none => refuse whole
        | some span =>
          match Description.parse (String.ofList span) with
          | .ok d => .ok d
          | .error e => refuse e

end Widgetry
