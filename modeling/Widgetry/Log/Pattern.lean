import Widgetry.Decimal.Reading

/-!
Patterns for the values of fields. A directive may ask for a value that is a truth value, a number
or else a regular expression, and one that is none of them is no directive. What a directive takes
for the text of a value holds no closing brace, so counted repetitions and named classes never end.

## Sections

1. Escapes.
2. Classes.
3. Expressions.
-/

namespace Widgetry.Log.Pattern

/-! ## 1. Escapes -/

/-- How many hexadecimal digits follow a letter behind a backslash. -/
def hexLength? (c : Char) : Option Nat :=
  match c with
  | 'x' => some 2
  | 'u' => some 4
  | 'U' => some 8
  | _ => none

/-- Whether a letter stands for characters or a place behind a backslash. -/
def isEscapeLetter (c : Char) : Bool := "afnrtvAzdDsSwW".toList.contains c

/-- Whether a character stands for itself behind a backslash. -/
def isEscaped (c : Char) : Bool :=
  c.toNat < 0x80 && !c.isAlphanum && c != '<' && c != '>'

/-- Whether a letter names a category of characters. -/
def isCategory (c : Char) : Bool := "LMNPSZC".toList.contains c

/-- How many characters behind a backslash belong to it. -/
def escapeLength? : List Char → Option Nat
  | [] => none
  | 'p' :: cs | 'P' :: cs => if cs.head?.any isCategory then some 2 else none
  | c :: cs =>
    match hexLength? c with
    | some n =>
      if n ≤ cs.length && (cs.take n).all (Decimal.isDigitOf 16) then some (n + 1) else none
    | none => if isEscapeLetter c || isEscaped c then some 1 else none

/-! ## 2. Classes -/

/-- What follows a class: the first closing bracket closes it unless it is its first character. The
ends of a range ascend, and `last` is the character that a range may start with. -/
def behindClass? (isFirst : Bool) (last : Option Char) : List Char → Option (List Char)
  | [] => none
  | ']' :: cs => if isFirst then behindClass? false (some ']') cs else some cs
  | '\\' :: c :: cs =>
    if isEscapeLetter c || isEscaped c then behindClass? false none cs else none
  | '-' :: c :: cs =>
    match last with
    | some a =>
      if c == ']' then some cs
      else if c == '\\' || c == '[' then behindClass? false none (c :: cs)
      else if a ≤ c then behindClass? false none cs else none
    | none => behindClass? false (some '-') (c :: cs)
  | c :: cs => behindClass? false (some c) cs

/-! ## 3. Expressions -/

/-- Whether a letter sets a flag, or a sign takes flags back. -/
def isFlag (c : Char) : Bool := "imsRUux-".toList.contains c

/-- Whether flags are given once each, and something is taken back behind the sign for it. -/
def areFlags (cs : List Char) : Bool := cs.Nodup && cs.getLast? != some '-'

/-- Whether a text can name a group. -/
def isGroupName (cs : List Char) : Bool :=
  !cs.isEmpty && !cs.head?.any Char.isDigit && cs.all fun c => c.isAlphanum || c == '_'

/-- What follows the name of a group. -/
def behindName? (cs : List Char) : Option (List Char) :=
  match cs.dropWhile (· != '>') with
  | '>' :: rest => if isGroupName (cs.takeWhile (· != '>')) then some rest else none
  | _ => none

/-- Whether an opening parenthesis opens a group or only sets flags, and what follows its head. -/
def groupHead? : List Char → Option (Bool × List Char)
  | '?' :: 'P' :: '<' :: cs => (behindName? cs).map (true, ·)
  | '?' :: '<' :: cs => (behindName? cs).map (true, ·)
  | '?' :: cs =>
    let flags := cs.takeWhile isFlag
    match cs.dropWhile isFlag with
    | ':' :: rest => if areFlags flags then some (true, rest) else none
    | ')' :: rest => if areFlags flags && !flags.isEmpty then some (false, rest) else none
    | _ => none
  | cs => some (true, cs)

/-- Whether a text is the rest of a regular expression in which groups are open; `repeats` says
whether what stands before it can be repeated. Each step uses up a character of the text, and `fuel`
is at least its length. -/
def isRest (openGroups : Nat) (repeats : Bool) : (fuel : Nat) → List Char → Bool
  | _, [] => openGroups == 0
  | 0, _ :: _ => false
  | fuel + 1, c :: cs =>
    match c with
    | '(' =>
      match groupHead? cs with
      | some (true, rest) => isRest (openGroups + 1) false fuel rest
      | some (false, rest) => isRest openGroups false fuel rest
      | none => false
    | ')' => 0 < openGroups && isRest (openGroups - 1) true fuel cs
    | '|' => isRest openGroups false fuel cs
    | '*' | '+' | '?' =>
      repeats && isRest openGroups true fuel (if cs.head? == some '?' then cs.tail else cs)
    | '{' => false
    | '[' =>
      match behindClass? true none (if cs.head? == some '^' then cs.tail else cs) with
      | some rest => isRest openGroups true fuel rest
      | none => false
    | '\\' =>
      match escapeLength? cs with
      | some n => isRest openGroups true fuel (cs.drop n)
      | none => false
    | _ => isRest openGroups true fuel cs

/-- Whether a text is a regular expression. -/
def isExpression (cs : List Char) : Bool := isRest 0 false cs.length cs

/-- Whether a directive may ask for a value: for a number, or for those that an expression matches.
-/
def isValue (cs : List Char) : Bool :=
  (Decimal.real? Decimal.double cs).isSome || isExpression cs

end Widgetry.Log.Pattern
