import Widgetry.Text.Alphanumeric
import Widgetry.Text.LetterCase

/-!
Words of a title and their kebab form. Words are cut at every character that is neither letter nor
digit, after a lower-case letter that an upper-case one follows, and before an upper-case letter
that stands between an upper-case and a lower-case one.
-/

namespace Widgetry.Text

/-- The case of the last cased letter of the word so far. -/
inductive Cased where
  | neither
  | lower
  | upper
  deriving Repr, DecidableEq

/-- The case after one more character of the same word. -/
def Cased.after (mode : Cased) (c : Char) : Cased :=
  if isLowercase c then .lower else if isUppercase c then .upper else mode

/-- The words of a text without separators; `word` holds the current word backwards. -/
def camelWords (mode : Cased) (word : List Char) : List Char → List (List Char)
  | [] => if word.isEmpty then [] else [word.reverse]
  | [c] => [(c :: word).reverse]
  | c :: next :: rest =>
    if mode.after c == .lower && isUppercase next then
      (c :: word).reverse :: camelWords .neither [] (next :: rest)
    else if mode == .upper && isUppercase c && isLowercase next then
      word.reverse :: camelWords .neither [c] (next :: rest)
    else
      camelWords (mode.after c) (c :: word) (next :: rest)

/-- The pieces of a text between characters that are neither letter nor digit. -/
def pieces : List Char → List (List Char)
  | [] => [[]]
  | c :: cs =>
    match pieces cs with
    | [] => [[c]]
    | p :: ps => if isAlphanumeric c then (c :: p) :: ps else [] :: p :: ps

/-- The words of a title. -/
def words (title : List Char) : List (List Char) :=
  (pieces title).flatMap (camelWords .neither [])

/-- A word in lower case; a capital sigma at its end becomes the final form. -/
def loweredWord : List Char → List Char
  | [] => []
  | [c] => if c == '\u03A3' then ['\u03C2'] else lowered c
  | c :: cs => lowered c ++ loweredWord cs

/-- The words of a title in lower case, with hyphens between them. -/
def kebab (title : String) : String :=
  "-".intercalate ((words title.toList).map fun w => String.ofList (loweredWord w))

end Widgetry.Text
