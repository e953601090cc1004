import Widgetry.Json.Error

/-!
Tokens of a document. A broken token says what is wrong in either of two cases: that the token's
value is wanted, or that it is only passed over; the two differ in how early they notice that the
text ends. No token follows a broken one. Faults count bytes from the start of their token, so a
token is the same wherever it stands.
-/

namespace Widgetry.Json

/-- A token. A text may hold half of a surrogate pair, and a number may be out of range; both may be
passed over but not kept. -/
inductive Token where
  | openArray
  | closeArray
  | openObject
  | closeObject
  | comma
  | colon
  | null
  | bool (b : Bool)
  | number (value : Except Fault Number)
  | text (content : Except Fault String)
  | brokenText (kept skipped : Fault)
  | broken (kept skipped : Fault)
  deriving Repr

/-! ## 1. Text -/

/-- A piece of a quoted text: a character, one that a short escape stands for, or a code unit that
an escape spells out. -/
inductive Piece where
  | char (c : Char)
  | short (c : Char)
  | code (unit : Nat)
  deriving Repr, DecidableEq

/-- How many bytes a piece takes. -/
def Piece.width : Piece → Nat
  | .char c => c.utf8Size
  | .short _ => 2
  | .code _ => 6

/-- The value of a hexadecimal digit. -/
def hexDigit? (c : Char) : Option Nat :=
  if '0' ≤ c && c ≤ '9' then some (c.toNat - '0'.toNat)
  else if 'a' ≤ c && c ≤ 'f' then some (c.toNat - 'a'.toNat + 10)
  else if 'A' ≤ c && c ≤ 'F' then some (c.toNat - 'A'.toNat + 10)
  else none

/-- The code unit that four hexadecimal digits spell. -/
def codeUnit? (a b c d : Char) : Option Nat := do
  return (((← hexDigit? a) * 16 + (← hexDigit? b)) * 16 + (← hexDigit? c)) * 16 + (← hexDigit? d)

/-- What a short escape stands for. -/
def shortEscape? (c : Char) : Option Char :=
  if c == '"' || c == '\\' || c == '/' then some c
  else if c == 'b' then some '\x08'
  else if c == 'f' then some '\x0c'
  else if c == 'n' then some '\n'
  else if c == 'r' then some '\r'
  else if c == 't' then some '\t'
  else none

/-- Why a quoted text is not closed: the text ends, maybe after some bytes of an escape, or there is
an unknown escape, an escape without four hexadecimal digits, or a control character. -/
inductive Stop where
  | ended (bytes : Nat)
  | escape
  | digits
  | control
  deriving Repr, DecidableEq

/-- The fault of a text that stops behind so many bytes. -/
def Stop.fault (before : Nat) : Stop → Fault
  | .ended n => Flaw.endInText.inside (before + n)
  | .escape => Flaw.badEscape.inside (before + 2)
  | .digits => Flaw.badEscape.inside (before + 6)
  | .control => Flaw.controlCharacter.inside (before + 1)

/-- The fault of a text that is only passed over. -/
def Stop.skippedFault (before : Nat) : Stop → Fault
  | .control => Flaw.controlCharacter.inside before
  | s => s.fault before

/-- The scanned part of a quoted text, what stopped it if it is not closed, and the rest. -/
structure Scanned where
  pieces : List Piece
  stopped : Option Stop
  rest : List Char
  deriving Repr, DecidableEq

/-- One more piece in front. -/
def Scanned.push (p : Piece) (s : Scanned) : Scanned :=
  { s with pieces := p :: s.pieces }

/-- The number of bytes of a text. -/
def byteSize : List Char → Nat
  | [] => 0
  | c :: cs => c.utf8Size + byteSize cs

/-- Scans a quoted text after its opening quote. -/
def scanText : List Char → Scanned
  | [] => ⟨[], some (.ended 0), []⟩
  | '"' :: rest => ⟨[], none, rest⟩
  | '\\' :: 'u' :: a :: b :: c :: d :: rest =>
    match codeUnit? a b c d with
    | some n => (scanText rest).push (.code n)
    | none => ⟨[], some .digits, []⟩
  | '\\' :: 'u' :: short =>
    ⟨[], some (if byteSize short < 4 then .ended (2 + byteSize short) else .digits), []⟩
  | '\\' :: c :: rest =>
    match shortEscape? c with
    | some e => (scanText rest).push (.short e)
    | none => ⟨[], some .escape, []⟩
  | ['\\'] => ⟨[], some (.ended 1), []⟩
  | c :: rest =>
    if c.toNat < 0x20 then ⟨[], some .control, []⟩ else (scanText rest).push (.char c)

/-- Code units that begin a surrogate pair. -/
def isLeading (n : Nat) : Bool := 0xD800 ≤ n && n < 0xDC00

/-- Code units that end a surrogate pair. -/
def isTrailing (n : Nat) : Bool := 0xDC00 ≤ n && n < 0xE000

/-- The fault of a text that goes on with no code unit, or stops, where the second half of a pair is
wanted. -/
def unpaired (before : Nat) : Option Stop → Fault
  | none | some .control => Flaw.unfinishedPair.inside (before + 1)
  | some .escape => Flaw.unfinishedPair.inside (before + 2)
  | some s => s.fault before

/-- The characters of a text's pieces behind so many bytes, surrogate pairs joined. A text that
stopped in the middle of a pair fails at the place that stopped it. -/
def joinPieces (stopped : Option Stop) (before : Nat) : List Piece → Except Fault (List Char)
  | [] => match stopped with
    | none => .ok []
    | some s => .error (s.fault before)
  | .char c :: rest => (joinPieces stopped (before + c.utf8Size) rest).map (c :: ·)
  | .short c :: rest => (joinPieces stopped (before + 2) rest).map (c :: ·)
  | .code n :: rest =>
    if isTrailing n then .error (Flaw.loneSurrogate.inside (before + 6))
    else if isLeading n then
      match rest with
      | [] => .error (unpaired (before + 6) stopped)
      | .code m :: rest =>
        if isTrailing m then
          (joinPieces stopped (before + 12) rest).map
            (Char.ofNat (0x10000 + (n - 0xD800) * 0x400 + (m - 0xDC00)) :: ·)
        else .error (Flaw.loneSurrogate.inside (before + 12))
      | .char _ :: _ => .error (Flaw.unfinishedPair.inside (before + 7))
      | .short _ :: _ => .error (Flaw.unfinishedPair.inside (before + 8))
    else (joinPieces stopped (before + 6) rest).map (Char.ofNat n :: ·)

/-- The number of bytes of pieces. -/
def piecesWidth : List Piece → Nat
  | [] => 0
  | p :: ps => p.width + piecesWidth ps

/-- The token of a scanned text, whose opening quote is its first byte. -/
def Scanned.token (s : Scanned) : Token :=
  let content := (joinPieces s.stopped 1 s.pieces).map String.ofList
  match s.stopped with
  | none => .text content
  | some stop =>
    let before := 1 + piecesWidth s.pieces
    match content with
    | .error kept => .brokenText kept (stop.skippedFault before)
    | .ok _ => .brokenText (stop.fault before) (stop.skippedFault before)

/-! ## 2. Numbers and words

The scanners of a number's parts are told how many bytes of it stand in front. -/

/-- The value of a decimal digit. -/
def digitValue (c : Char) : Nat := c.toNat - '0'.toNat

/-- The digits at the front of a text, and the rest. -/
def leadingDigits (cs : List Char) : List Nat × List Char :=
  ((cs.takeWhile Char.isDigit).map digitValue, cs.dropWhile Char.isDigit)

/-- A number that breaks off where a digit is missing. -/
def missingDigit (before : Nat) : List Char → Token
  | [] => .broken (Flaw.endInValue.inside before) (Flaw.badNumber.inside before)
  | _ => .broken (Flaw.badNumber.inside (before + 1)) (Flaw.badNumber.inside (before + 1))

/-- The sign of an exponent, if it has one, and the text after it. -/
def exponentSign : List Char → Option Bool × List Char
  | '+' :: cs => (some false, cs)
  | '-' :: cs => (some true, cs)
  | cs => (none, cs)

/-- The number of a numeral; the last argument says where it is noticed that it is out of range. -/
def Numeral.number (n : Numeral) (offset : Nat) : Except Fault Number :=
  match n.value with
  | some v => .ok v
  | none => .error (Flaw.outOfRange.inside offset)

/-- The token of a numeral. -/
def Numeral.token (n : Numeral) (offset : Nat) : Token := .number (n.number offset)

/-- How many digits of an exponent are read until it is too great to be spelled out. -/
def powerDigits (power : Nat) : List Nat → Nat
  | [] => 0
  | d :: ds => if greatestExponent < power * 10 + d then 1 else powerDigits (power * 10 + d) ds + 1

/-- How many bytes the letter and the sign of an exponent take. -/
def powerOffset (sign : Option Bool) : Nat := if sign.isSome then 2 else 1

/-- Scans the digits of an exponent behind its sign. -/
def scanPower (n : Numeral) (before : Nat) (sign : Option Bool) (cs : List Char) :
    Token × List Char :=
  match leadingDigits cs with
  | ([], rest) => (missingDigit (before + powerOffset sign) rest, [])
  | (ds, rest) =>
    (Numeral.token { n with exponent := some (sign == some true, ds) }
      (before + powerOffset sign + powerDigits 0 ds), rest)

/-- Scans the exponent of a number, if it has one. -/
def scanExponent (n : Numeral) (before : Nat) : List Char → Token × List Char
  | [] => (n.token before, [])
  | c :: cs =>
    if c == 'e' || c == 'E' then
      scanPower n before (exponentSign cs).1 (exponentSign cs).2
    else (n.token before, c :: cs)

/-- Scans the fraction and the exponent of a number. -/
def scanFraction (n : Numeral) (before : Nat) : List Char → Token × List Char
  | '.' :: cs =>
    match leadingDigits cs with
    | ([], rest) => (missingDigit (before + 1) rest, [])
    | (ds, rest) => scanExponent { n with fraction := some ds } (before + 1 + ds.length) rest
  | cs => scanExponent n before cs

/-- How many bytes a number's sign takes. -/
def signWidth (negative : Bool) : Nat := if negative then 1 else 0

/-- A zero in front of another digit, behind so many bytes. -/
def leadingZero (before : Nat) : Token :=
  .broken (Flaw.badNumber.inside (before + 2)) (Flaw.badNumber.inside (before + 2))

/-- Scans a number after its sign; no second digit follows a leading zero. -/
def scanUnsigned (negative : Bool) (cs : List Char) : Token × List Char :=
  match leadingDigits cs with
  | ([], rest) => (missingDigit (signWidth negative) rest, [])
  | (0 :: _ :: _, _) => (leadingZero (signWidth negative), [])
  | (ds, rest) => scanFraction ⟨negative, ds, none, none⟩ (signWidth negative + ds.length) rest

/-- Scans the rest of a word that stands for a token, behind so many of its characters. -/
def scanWord (token : Token) (before : Nat) : List Char → List Char → Token × List Char
  | [], rest => (token, rest)
  | _ :: _, [] => (.broken (Flaw.endInValue.inside before) (Flaw.endInValue.inside before), [])
  | w :: ws, c :: cs =>
    if w == c then scanWord token (before + 1) ws cs
    else (.broken (Flaw.noWord.inside (before + 1)) (Flaw.noWord.inside (before + 1)), [])

/-! ## 3. Tokens -/

/-- White space between tokens. -/
def isGap (c : Char) : Bool :=
  c == ' ' || c == '\n' || c == '\t' || c == '\r'

/-- Scans the token that starts with a character. -/
def scanToken (c : Char) (cs : List Char) : Token × List Char :=
  if c == '[' then (.openArray, cs)
  else if c == ']' then (.closeArray, cs)
  else if c == '{' then (.openObject, cs)
  else if c == '}' then (.closeObject, cs)
  else if c == ',' then (.comma, cs)
  else if c == ':' then (.colon, cs)
  else if c == '"' then let s := scanText cs; (s.token, s.rest)
  else if c == '-' then scanUnsigned true cs
  else if c.isDigit then scanUnsigned false (c :: cs)
  else if c == 'n' then scanWord .null 1 ['u', 'l', 'l'] cs
  else if c == 't' then scanWord (.bool true) 1 ['r', 'u', 'e'] cs
  else if c == 'f' then scanWord (.bool false) 1 ['a', 'l', 's', 'e'] cs
  else (.broken Flaw.noValue.here Flaw.noValue.here, [])

/-! ## 4. Every token takes at least one character -/

theorem scanText_rest_length (cs : List Char) : (scanText cs).rest.length ≤ cs.length := by
  fun_induction scanText cs <;> simp_all [Scanned.push] <;> omega

theorem leadingDigits_rest_length (cs : List Char) : (leadingDigits cs).2.length ≤ cs.length := by
  simpa [leadingDigits] using (List.dropWhile_suffix (p := Char.isDigit) (l := cs)).length_le

theorem scanWord_rest_length (t : Token) (before : Nat) (ws cs : List Char) :
    (scanWord t before ws cs).2.length ≤ cs.length := by
  fun_induction scanWord t before ws cs <;> simp_all
  omega

theorem exponentSign_rest_length (cs : List Char) : (exponentSign cs).2.length ≤ cs.length := by
  unfold exponentSign
  split <;> simp

theorem scanPower_rest_length (n : Numeral) (before : Nat) (sign : Option Bool) (cs : List Char) :
    (scanPower n before sign cs).2.length ≤ cs.length := by
  have hd := leadingDigits_rest_length cs
  unfold scanPower
  split
  · exact Nat.zero_le _
  · rename_i heq
    rw [heq] at hd
    exact hd

theorem scanExponent_rest_length (n : Numeral) (before : Nat) (cs : List Char) :
    (scanExponent n before cs).2.length ≤ cs.length := by
  cases cs with
  | nil => exact Nat.le_refl _
  | cons c cs =>
    have hs := exponentSign_rest_length cs
    have hp := scanPower_rest_length n before (exponentSign cs).1 (exponentSign cs).2
    rw [scanExponent]
    split
    · exact Nat.le_succ_of_le (Nat.le_trans hp hs)
    · exact Nat.le_refl _

theorem scanFraction_rest_length (n : Numeral) (before : Nat) (cs : List Char) :
    (scanFraction n before cs).2.length ≤ cs.length := by
  unfold scanFraction
  split
  · rename_i ds
    have hd := leadingDigits_rest_length ds
    split
    · exact Nat.zero_le _
    · rename_i xs rest _ heq
      rw [heq] at hd
      exact Nat.le_succ_of_le
        (Nat.le_trans (scanExponent_rest_length { n with fraction := some xs } _ rest) hd)
  · exact scanExponent_rest_length n before cs

/-- A number leaves at most what its digits leave. -/
theorem scanUnsigned_rest_length (neg : Bool) (cs : List Char) :
    (scanUnsigned neg cs).2.length ≤ (leadingDigits cs).2.length := by
  unfold scanUnsigned
  split
  · exact Nat.zero_le _
  · exact Nat.zero_le _
  · rename_i ds rest _ _ heq
    rw [heq]
    exact scanFraction_rest_length ⟨neg, ds, none, none⟩ _ rest

theorem ite_rest_length {p : Prop} [Decidable p] {a b : Token × List Char} {n : Nat}
    (ha : p → a.2.length ≤ n) (hb : ¬p → b.2.length ≤ n) :
    (if p then a else b).2.length ≤ n := by
  split
  · exact ha ‹_›
  · exact hb ‹_›

theorem scanToken_rest_length (c : Char) (cs : List Char) :
    (scanToken c cs).2.length ≤ cs.length := by
  have ht := scanText_rest_length cs
  have hn := Nat.le_trans (scanUnsigned_rest_length true cs) (leadingDigits_rest_length cs)
  have hd (h : c.isDigit = true) : (scanUnsigned false (c :: cs)).2.length ≤ cs.length := by
    have hs := (List.dropWhile_suffix (p := Char.isDigit) (l := cs)).length_le
    have hu := scanUnsigned_rest_length false (c :: cs)
    rw [leadingDigits, List.dropWhile_cons_of_pos h] at hu
    exact Nat.le_trans hu hs
  have hw := fun t ws => scanWord_rest_length t 1 ws cs
  unfold scanToken
  repeat' refine ite_rest_length (fun _ => ?_) (fun _ => ?_)
  all_goals first
    | exact Nat.le_refl _
    | exact ht
    | exact hn
    | exact hd ‹_›
    | exact hw _ _
    | exact Nat.zero_le _

/-- The tokens of a text. -/
def tokens : List Char → List Token
  | [] => []
  | c :: cs =>
    if isGap c then tokens cs
    else
      match _h : scanToken c cs with
      | (.broken k s, _) => [.broken k s]
      | (.brokenText k s, _) => [.brokenText k s]
      | (t, rest) => t :: tokens rest
termination_by cs => cs.length
decreasing_by
  · simp
  · have hlen := scanToken_rest_length c cs
    rw [_h] at hlen
    exact Nat.lt_succ_of_le hlen

end Widgetry.Json
