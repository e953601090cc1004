import Widgetry.Json.Raw

/-!
Where in its text a document goes wrong. The steps of a trouble lead through the tree to a token,
which is found by counting the tokens in front of it (`Raw.site`). The text says how many bytes
stand in front of each token (`spans`), and so which line and column reading has reached.

A fault of the text is reported at the byte that shows it. A value out of place is reported behind
it, if it is no array or object, and in front of its bracket otherwise; what is missing in an array
or object is reported behind its end, and a key that is there twice behind the second one.
-/

namespace Widgetry.Json

/-! ## 1. Tokens on the way -/

/-- How far reading has come at a token: some bytes into it, or into the token in front, which
stands in its place; behind it; or up to it, but behind a closing brace. -/
inductive Reach where
  | into (offset : Nat)
  | instead (offset : Nat)
  | behind
  | upTo
  deriving Repr, DecidableEq

/-- A place among the tokens of a text, with the number of tokens in front. -/
structure Site where
  token : Nat
  reach : Reach
  deriving Repr, DecidableEq

/-- A place behind more tokens. -/
def Site.after (n : Nat) (s : Site) : Site := { s with token := s.token + n }

/-- Where a fault is reported. -/
def Fault.site (f : Fault) : Site := ⟨0, if f.early then .instead f.offset else .into f.offset⟩

/-- Where a value is reported that is not what its place asks for. -/
def Mismatch.site (r : Raw) : Mismatch → Site
  | .missingField _ | .wrongLength .. => ⟨r.width - 1, .behind⟩
  | _ =>
    match r with
    | .array _ | .object _ => ⟨0, .into 0⟩
    | _ => ⟨0, .behind⟩

mutual

/-- The place of a trouble in a tree. -/
def Raw.site : Raw → Trouble → Site
  | _, .fault f => f.site
  | r, .mismatch m => m.site r
  | r, .trailing => ⟨r.width, .into 1⟩
  | .array items, t => (items.site t).after 1
  | .object members, t => (members.site t).after 1
  | _, _ => ⟨0, .into 0⟩

/-- The place of a trouble in items. -/
def Items.site : Items → Trouble → Site
  | .cons item _, .item t => item.site t
  | .cons item rest, .later t => (rest.site t).after (item.width + 1)
  | _, .stopped f => f.site
  | _, _ => ⟨0, .into 0⟩

/-- The place of a trouble in members. -/
def Members.site : Members → Trouble → Site
  | .cons _ value _, .item t | .cons _ value _, .member _ t | .cons _ value _, .unread _ t =>
    (value.site t).after 2
  | .cons _ value rest, .later t => (rest.site t).after (value.width + 3)
  | _, .key f | _, .stopped f => f.site
  | _, .repeated _ => ⟨1, .upTo⟩
  | _, _ => ⟨0, .into 0⟩

end

/-! ## 2. Lines and columns -/

/-- The text from each token on, and the text behind it. -/
def spans : List Char → List (List Char × List Char)
  | [] => []
  | c :: cs =>
    if isGap c then spans cs
    else
      match _h : scanToken c cs with
      | (_, rest) => (c :: cs, rest) :: spans rest
termination_by cs => cs.length
decreasing_by
  · simp
  · have hlen := scanToken_rest_length c cs
    rw [_h] at hlen
    exact Nat.lt_succ_of_le hlen

/-- The number of bytes in front of a place, all of them if no token is there. -/
def Site.bytes (s : Site) (cs : List Char) : Nat :=
  let token := match s.reach with
    | .instead _ => s.token - 1
    | _ => s.token
  match (spans cs)[token]? with
  | none => byteSize cs
  | some (start, rest) =>
    match s.reach with
    | .into offset | .instead offset => byteSize cs - byteSize start + offset
    | .behind => byteSize cs - byteSize rest
    | .upTo => byteSize cs - byteSize start + if start.head? == some '}' then 1 else 0

/-- Moves on by so many bytes of a text. A position may be inside a character. -/
def Position.advance (p : Position) (bytes : Nat) : List Char → Position
  | [] => p
  | c :: cs =>
    if bytes < c.utf8Size then { p with column := p.column + bytes }
    else if c == '\n' then advance ⟨p.line + 1, 0⟩ (bytes - 1) cs
    else advance { p with column := p.column + c.utf8Size } (bytes - c.utf8Size) cs

/-- The position of a place in a text. -/
def Site.position (s : Site) (cs : List Char) : Position :=
  Position.advance ⟨1, 0⟩ (s.bytes cs) cs

/-- The error of a document that was read from a text. -/
def Trouble.inText (text : String) (t : Trouble) : Error :=
  ⟨t.pathFrom 0, t.problem, some (((Raw.ofText text).1.site t).position text.toList)⟩

/-- Reads a whole text as one value. -/
def readText {α : Type} (text : String) (read : Raw → Except Trouble α) : Except Error α :=
  let (raw, rest) := Raw.ofText text
  let found : Except Trouble α := do
    let a ← read raw
    if rest.isEmpty then return a else .error .trailing
  found.mapError (·.inText text)

end Widgetry.Json
