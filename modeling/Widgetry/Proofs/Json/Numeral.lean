import Mathlib.Tactic.IntervalCases
import Widgetry.Proofs.Decimal.Digits
import Widgetry.Proofs.Json.Lexeme

/-!
Written numbers. A numeral has a text of its own (`Numeral.print`), which is scanned part by part as
one token with the numeral's value (`tokens_numeral`). Every text of a number is that of a numeral:
a natural number of 64 bits is read back as itself (`legible_natural`), and a real number that is
finite is read as a number or as one out of range, but never as anything else
(`exists_tokens_real`).
-/

namespace Widgetry.Json

open Widgetry.Decimal

/-! ## 1. The text of a numeral -/

/-- The text of the digits behind the point. -/
def fractionChars : Option (List Nat) → List Char
  | none => []
  | some ds => '.' :: digitChars ds

/-- The text of an exponent, with its sign. -/
def exponentChars : Option (Bool × List Nat) → List Char
  | none => []
  | some (negative, ds) => 'e' :: (if negative then '-' else '+') :: digitChars ds

/-- The text of a numeral behind its sign. -/
def Numeral.printUnsigned (n : Numeral) : List Char :=
  digitChars n.whole ++ (fractionChars n.fraction ++ exponentChars n.exponent)

/-- The text of a numeral. -/
def Numeral.print (n : Numeral) : List Char :=
  (if n.negative then ['-'] else []) ++ n.printUnsigned

/-- At least one digit. -/
def SomeDigits (ds : List Nat) : Prop :=
  ds ≠ [] ∧ ∀ d ∈ ds, d < 10

/-- A numeral that has digits where they are wanted, and no zero before others. -/
structure Numeral.Spelled (n : Numeral) : Prop where
  whole : Proper n.whole
  fraction : ∀ ds, n.fraction = some ds → SomeDigits ds
  exponent : ∀ negative ds, n.exponent = some (negative, ds) → SomeDigits ds

/-- A number with a fraction is spelled properly if its parts are. -/
theorem Numeral.spelled_fraction {negative : Bool} {whole ds : List Nat}
    {exponent : Option (Bool × List Nat)} (hwhole : Proper whole) (hds : SomeDigits ds)
    (hexponent : ∀ negative ds, exponent = some (negative, ds) → SomeDigits ds) :
    Spelled ⟨negative, whole, some ds, exponent⟩ where
  whole := hwhole
  fraction := by
    rintro ds' h
    obtain rfl := Option.some.inj h
    exact hds
  exponent := hexponent

/-! ## 2. Scanning a numeral -/

/-- No digit stands in front of a text. -/
def EndsDigits (cs : List Char) : Prop :=
  ∀ c, cs.head? = some c → c.isDigit = false

theorem endsDigits_cons {c : Char} (h : c.isDigit = false) (cs : List Char) :
    EndsDigits (c :: cs) := by
  rintro d hd
  obtain rfl := Option.some.inj hd
  exact h

/-- A digit is a character that scanning takes for it. -/
theorem digit_of_lt_ten : ∀ d < 10, (Char.ofNat ('0'.toNat + d)).isDigit = true
    ∧ Json.digitValue (Char.ofNat ('0'.toNat + d)) = d := by
  decide

/-- Digits are read to their last one. -/
theorem leadingDigits_digitChars {ds : List Nat} (hds : ∀ d ∈ ds, d < 10) {cs : List Char}
    (hcs : EndsDigits cs) : leadingDigits (digitChars ds ++ cs) = (ds, cs) := by
  have hstop : cs.takeWhile Char.isDigit = [] ∧ cs.dropWhile Char.isDigit = cs := by
    cases cs with
    | nil => exact ⟨rfl, rfl⟩
    | cons c cs =>
      have hc : ¬c.isDigit = true := by simpa using hcs c rfl
      exact ⟨List.takeWhile_cons_of_neg hc, List.dropWhile_cons_of_neg hc⟩
  have hdigits : ∀ c ∈ digitChars ds, c.isDigit = true := by
    intro c hc
    obtain ⟨d, hd, rfl⟩ := List.mem_map.1 hc
    exact (digit_of_lt_ten d (hds d hd)).1
  have hvalues : (digitChars ds).map Json.digitValue = ds := by
    rw [digitChars, List.map_map]
    exact (List.map_congr_left fun d hd => (digit_of_lt_ten d (hds d hd)).2).trans (List.map_id ds)
  rw [leadingDigits, List.takeWhile_append_of_pos hdigits, List.dropWhile_append_of_pos hdigits,
    hstop.1, hstop.2, List.append_nil, hvalues]

/-- What ends a number ends its digits. -/
theorem endsDigits_of_endsNumber {cs : List Char} (h : EndsNumber cs) : EndsDigits cs := by
  intro c hc
  have hgoes := h c hc
  simp only [goesOn, Bool.or_eq_false_iff] at hgoes
  exact hgoes.1.1.1

/-- The letter of an exponent ends the digits in front of it. -/
theorem endsDigits_exponentChars {cs : List Char} (h : EndsNumber cs)
    (exponent : Option (Bool × List Nat)) : EndsDigits (exponentChars exponent ++ cs) := by
  match exponent with
  | none => exact endsDigits_of_endsNumber h
  | some (negative, ds) => exact endsDigits_cons (by decide) _

/-- The point of a fraction ends the digits in front of it. -/
theorem endsDigits_fractionChars {cs : List Char} (h : EndsDigits cs)
    (fraction : Option (List Nat)) : EndsDigits (fractionChars fraction ++ cs) := by
  cases fraction with
  | none => exact h
  | some ds => exact endsDigits_cons (by decide) _

/-- Where reading has come behind a fraction, if there is one. -/
def fractionEnd (before : Nat) : Option (List Nat) → Nat
  | none => before
  | some ds => before + 1 + ds.length

/-- Where reading has come behind an exponent, if there is one, or in it, if it is too great. -/
def exponentEnd (before : Nat) : Option (Bool × List Nat) → Nat
  | none => before
  | some (_, ds) => before + powerOffset (some true) + powerDigits 0 ds

/-- Where it is noticed that a numeral is out of range. -/
def Numeral.stop (n : Numeral) : Nat :=
  exponentEnd (fractionEnd (signWidth n.negative + n.whole.length) n.fraction) n.exponent

variable {n : Numeral} {cs : List Char}

/-- An exponent is read as it was written. -/
theorem scanExponent_exponentChars (h : n.Spelled) (hcs : EndsNumber cs) (before : Nat) :
    scanExponent { n with exponent := none } before (exponentChars n.exponent ++ cs)
      = (n.token (exponentEnd before n.exponent), cs) := by
  obtain ⟨negative, whole, fraction, exponent⟩ := n
  match exponent with
  | none =>
    cases cs with
    | nil => rfl
    | cons c cs =>
      have hc : (c == 'e' || c == 'E') = false := by
        have hgoes := hcs c rfl
        simp only [goesOn, Bool.or_eq_false_iff] at hgoes ⊢
        exact ⟨hgoes.1.2, hgoes.2⟩
      rw [exponentChars, List.nil_append, scanExponent, hc]
      rfl
  | some (down, ds) =>
    obtain ⟨hne, hsmall⟩ := h.exponent down ds rfl
    have hsign : exponentSign ((if down then '-' else '+') :: (digitChars ds ++ cs))
        = (some down, digitChars ds ++ cs) := by
      cases down <;> rfl
    obtain ⟨d, rest, rfl⟩ := List.exists_cons_of_ne_nil hne
    have hread := leadingDigits_digitChars hsmall (endsDigits_of_endsNumber hcs)
    rw [exponentChars, List.cons_append, scanExponent, if_pos (by decide), List.cons_append, hsign,
      scanPower, hread]
    cases down <;> rfl

/-- A fraction is read as it was written, and the exponent behind it. -/
theorem scanFraction_fractionChars (h : n.Spelled) (hcs : EndsNumber cs) (before : Nat) :
    scanFraction { n with fraction := none, exponent := none } before
        (fractionChars n.fraction ++ (exponentChars n.exponent ++ cs))
      = (n.token (exponentEnd (fractionEnd before n.fraction) n.exponent), cs) := by
  have hexponent := scanExponent_exponentChars h hcs (fractionEnd before n.fraction)
  obtain ⟨negative, whole, fraction, exponent⟩ := n
  cases fraction with
  | none =>
    rw [fractionChars, List.nil_append, scanFraction_of_ne]
    · exact hexponent
    · intro ds hds
      match exponent with
      | none =>
        have hpoint := hcs '.' (List.head?_eq_some_iff.2 ⟨ds, hds⟩)
        cases hpoint
      | some (down, es) => cases hds
  | some ds =>
    obtain ⟨hne, hsmall⟩ := h.fraction ds rfl
    obtain ⟨d, rest, rfl⟩ := List.exists_cons_of_ne_nil hne
    have hread := leadingDigits_digitChars hsmall (endsDigits_exponentChars hcs exponent)
    rw [fractionChars, List.cons_append, scanFraction, hread]
    exact hexponent

/-- A number is read as it was written, from its first digit on. -/
theorem scanUnsigned_printUnsigned (h : n.Spelled) (hcs : EndsNumber cs) :
    scanUnsigned n.negative (n.printUnsigned ++ cs) = (n.token n.stop, cs) := by
  have hfraction := scanFraction_fractionChars h hcs (signWidth n.negative + n.whole.length)
  have hread := leadingDigits_digitChars h.whole.small
    (endsDigits_fractionChars (endsDigits_exponentChars hcs n.exponent) n.fraction)
  rw [Numeral.printUnsigned, List.append_assoc, List.append_assoc, scanUnsigned, hread]
  split
  · rename_i heq
    exact absurd (Prod.mk.inj heq).1 h.whole.ne_nil
  · rename_i d rest more heq
    obtain ⟨hwhole, -⟩ := Prod.mk.inj heq
    rcases h.whole.first with hzero | ⟨d', rest', hcons, hd'⟩
    · rw [hzero] at hwhole
      cases hwhole
    · rw [hcons] at hwhole
      exact absurd (List.cons.inj hwhole).1 hd'
  · rename_i heq
    obtain ⟨rfl, rfl⟩ := Prod.mk.inj heq
    exact hfraction

/-- A number begins with a digit if it has no sign. -/
theorem scanToken_digit {d : Nat} (hd : d < 10) (cs : List Char) :
    scanToken (Char.ofNat ('0'.toNat + d)) cs
      = scanUnsigned false (Char.ofNat ('0'.toNat + d) :: cs) := by
  interval_cases d <;> rfl

theorem isGap_digit : ∀ d < 10, isGap (Char.ofNat ('0'.toNat + d)) = false := by decide

/-- The text of a numeral is one token, which has the numeral's value. -/
theorem tokens_numeral (h : n.Spelled) (hcs : EndsNumber cs) :
    tokens (n.print ++ cs) = n.token n.stop :: tokens cs := by
  have hscan := scanUnsigned_printUnsigned h hcs
  cases hsign : n.negative with
  | true =>
    rw [hsign] at hscan
    rw [Numeral.print, hsign, if_pos rfl, List.singleton_append, List.cons_append]
    exact tokens_of_scanToken (by decide) hscan rfl
  | false =>
    rw [hsign] at hscan
    obtain ⟨d, rest, hwhole⟩ := List.exists_cons_of_ne_nil h.whole.ne_nil
    have hd : d < 10 := h.whole.small d (hwhole ▸ List.mem_cons_self)
    obtain ⟨more, hchars⟩ : ∃ more, n.printUnsigned ++ cs = Char.ofNat ('0'.toNat + d) :: more := by
      rw [Numeral.printUnsigned, hwhole]
      exact ⟨_, rfl⟩
    rw [hchars, ← scanToken_digit hd] at hscan
    rw [Numeral.print, hsign, if_neg Bool.false_ne_true, List.nil_append, hchars]
    exact tokens_of_scanToken (isGap_digit d hd) hscan rfl

/-! ## 3. Natural numbers -/

/-- More digits do not make a number smaller. -/
theorem le_ofDigits (n : Nat) (ds : List Nat) : n ≤ ds.foldl (fun n d => n * 10 + d) n := by
  induction ds generalizing n with
  | nil => exact Nat.le_refl n
  | cons d ds ih => exact Nat.le_trans (by omega) (ih (n * 10 + d))

/-- Digits are all taken if the number that they spell fits into 64 bits. -/
theorem absorb_of_le {s : Nat} {ds : List Nat}
    (h : ds.foldl (fun n d => n * 10 + d) s ≤ greatest) :
    absorb s ds = (ds.foldl (fun n d => n * 10 + d) s, ds.length) := by
  induction ds generalizing s with
  | nil => rfl
  | cons d ds ih =>
    have hfits : s * 10 + d ≤ greatest := Nat.le_trans (le_ofDigits (s * 10 + d) ds) h
    rw [absorb, if_pos hfits, ih h]
    rfl

/-- A natural number within range is read from its digits. -/
theorem value_natural {n : Nat} (h : n ≤ greatest) :
    Numeral.value ⟨false, digitsOf n, none, none⟩ = some (.int n) := by
  have htaken : absorb 0 (digitsOf n) = (n, (digitsOf n).length) := by
    rw [absorb_of_le] <;> rw [ofDigits_digitsOf]
    exact h
  simp [Numeral.value, htaken]

/-- A natural number that fits into 64 bits is read back. -/
theorem legible_natural {n : Nat} (h : n ≤ greatest) : (Number.int n).Legible := by
  intro cs hcs
  have hspelled : Numeral.Spelled ⟨false, digitsOf n, none, none⟩ :=
    ⟨proper_digitsOf n, fun _ h => (nomatch h), fun _ _ h => nomatch h⟩
  have htext : (Number.int n).text.toList = Numeral.print ⟨false, digitsOf n, none, none⟩ := by
    show (Nat.repr n).toList = digitChars (digitsOf n) ++ []
    rw [Nat.repr, String.toList_ofList, digitChars_digitsOf, List.append_nil]
  rw [htext, tokens_numeral hspelled hcs, Numeral.token, Numeral.number, value_natural h]

/-! ## 4. Real numbers -/

theorem toList_digitText (ds : List Nat) : (digitText ds).toList = digitChars ds :=
  String.toList_ofList

theorem toList_zeros (n : Nat) : (zeros n).toList = digitChars (List.replicate n 0) := by
  rw [zeros, String.toList_ofList, digitChars, List.map_replicate]
  rfl

theorem digitChars_append (ds es : List Nat) :
    digitChars (ds ++ es) = digitChars ds ++ digitChars es :=
  List.map_append

theorem lt_ten_of_mem_append_zeros {ds : List Nat} (h : ∀ d ∈ ds, d < 10) (n : Nat) :
    ∀ d ∈ ds ++ List.replicate n 0, d < 10 :=
  List.forall_mem_append.2 ⟨h, fun d hd => by rw [List.eq_of_mem_replicate hd]; decide⟩

/-- Digits whose first one is not zero, or the digit zero before the point. -/
structure Lead (d : Digits) : Prop where
  small : ∀ x ∈ d.digits, x < 10
  first : d = ⟨[0], 1⟩ ∨ ∃ x rest, d.digits = x :: rest ∧ x ≠ 0

/-- The shortest digits of a number begin with a digit that is no zero, unless the number is zero.
-/
theorem lead_shortest (t : Tie) (f : Format) (m : Nat) (e : Int) : Lead (shortest t f m e) := by
  rcases shortest_eq_zero_or t f m e with hzero | ⟨d, rest, hdigits, hd, hsmall⟩
  · rw [hzero]
    exact ⟨by decide, .inl rfl⟩
  · exact ⟨by rwa [hdigits], .inr ⟨d, rest, hdigits, hd⟩⟩

variable {d : Digits}

theorem Lead.someDigits (h : Lead d) : SomeDigits d.digits := by
  refine ⟨?_, h.small⟩
  rcases h.first with rfl | ⟨x, rest, hdigits, -⟩
  · exact List.cons_ne_nil _ _
  · rw [hdigits]
    exact List.cons_ne_nil _ _

/-- The first digit stands alone before the point. -/
theorem Lead.exists_cons (h : Lead d) :
    ∃ x rest, d.digits = x :: rest ∧ Proper [x] ∧ ∀ y ∈ rest, y < 10 := by
  have hsmall := h.small
  rcases h.first with rfl | ⟨x, rest, hdigits, hx⟩
  · exact ⟨0, [], rfl, proper_zero, fun _ h => nomatch h⟩
  · rw [hdigits] at hsmall
    obtain ⟨hfirst, hrest⟩ := List.forall_mem_cons.1 hsmall
    exact ⟨x, rest, hdigits, ⟨List.forall_mem_singleton.2 hfirst, .inr ⟨x, [], rfl, hx⟩⟩, hrest⟩

/-- The digits before the point, filled up with zeros. -/
theorem Lead.proper_whole (h : Lead d) (hpoint : 0 < d.point) :
    Proper (d.digits.take d.point.toNat
      ++ List.replicate (d.point.toNat - (d.digits.take d.point.toNat).length) 0) := by
  refine ⟨lt_ten_of_mem_append_zeros (fun x hx => h.small x (List.mem_of_mem_take hx)) _, ?_⟩
  rcases h.first with rfl | ⟨x, rest, hdigits, hx⟩
  · exact .inl rfl
  · obtain ⟨p, hp⟩ : ∃ p, d.point.toNat = p + 1 := ⟨d.point.toNat - 1, by omega⟩
    rw [hdigits, hp, List.take_succ_cons, List.cons_append]
    exact .inr ⟨x, _, rfl, hx⟩

variable {l : Layout}

/-- In positional notation with a point, a number is a numeral without exponent. -/
theorem exists_numeral_positional (hkeeps : l.keepsPoint = true) (h : Lead d) (negative : Bool) :
    ∃ n : Numeral, n.Spelled ∧ n.negative = negative
      ∧ (l.positional d).toList = n.printUnsigned := by
  obtain ⟨hne, hsmall⟩ := h.someDigits
  have hnone (negative : Bool) (ds : List Nat) (h : none = some (negative, ds)) : SomeDigits ds :=
    nomatch h
  unfold Layout.positional
  split
  · have hfraction : SomeDigits (List.replicate d.point.natAbs 0 ++ d.digits) := by
      refine ⟨List.append_ne_nil_of_right_ne_nil _ hne, List.forall_mem_append.2 ⟨?_, hsmall⟩⟩
      intro x hx
      rw [List.eq_of_mem_replicate hx]
      decide
    refine ⟨_, Numeral.spelled_fraction proper_zero hfraction hnone, rfl, ?_⟩
    rw [String.toList_append, String.toList_append, toList_zeros, toList_digitText,
      List.append_assoc, ← digitChars_append]
    simp [Numeral.printUnsigned, fractionChars, exponentChars, digitChars]
  · rename_i hpoint
    have hwhole := h.proper_whole (Int.not_le.1 hpoint)
    dsimp only
    split
    · have hfraction : SomeDigits [0] := ⟨List.cons_ne_nil _ _, by decide⟩
      refine ⟨_, Numeral.spelled_fraction hwhole hfraction hnone, rfl, ?_⟩
      rw [String.toList_append, String.toList_append, toList_zeros, toList_digitText,
        ← digitChars_append]
      rfl
    · rename_i hrest
      have hfraction : SomeDigits (d.digits.drop d.point.toNat) :=
        ⟨by simpa using hrest, fun x hx => hsmall x (List.mem_of_mem_drop hx)⟩
      refine ⟨_, Numeral.spelled_fraction hwhole hfraction hnone, rfl, ?_⟩
      rw [String.toList_append, String.toList_append, String.toList_append, toList_zeros,
        toList_digitText, toList_digitText, ← digitChars_append]
      simp [Numeral.printUnsigned, fractionChars, exponentChars]

/-- The exponent in scientific notation, with its sign. -/
theorem toList_exponent (hplus : l.plusSign = true) (e : Int) :
    ("e" ++ ((if l.plusSign && 0 ≤ e then "+" else "") ++ toString e)).toList
      = exponentChars (some (decide (e < 0), digitsOf e.natAbs)) := by
  have hdigits (k : Nat) : (Nat.repr k).toList = digitChars (digitsOf k) := by
    rw [Nat.repr, String.toList_ofList, digitChars_digitsOf]
  cases e with
  | ofNat k =>
    have htext : (k : Int).repr = Nat.repr k := rfl
    simp [hplus, htext, hdigits, exponentChars]
  | negSucc k =>
    have htext : (Int.negSucc k).repr = "-" ++ Nat.repr (k + 1) := rfl
    simp [hplus, htext, hdigits, exponentChars]

/-- In scientific notation, a number is a numeral with exponent. -/
theorem exists_numeral_scientific (hplus : l.plusSign = true) (h : Lead d) (negative : Bool) :
    ∃ n : Numeral, n.Spelled ∧ n.negative = negative
      ∧ (l.scientific d).toList = n.printUnsigned := by
  have hexponent := toList_exponent hplus (d.point - 1)
  have hpower : ∀ negative ds,
      some (decide (d.point - 1 < 0), digitsOf (d.point - 1).natAbs) = some (negative, ds) →
        SomeDigits ds := by
    rintro negative ds hds
    obtain ⟨-, rfl⟩ := Prod.mk.inj (Option.some.inj hds)
    exact ⟨(proper_digitsOf _).ne_nil, lt_ten_of_mem_digitsOf _⟩
  obtain ⟨x, rest, hdigits, hproper, hrest⟩ := h.exists_cons
  unfold Layout.scientific
  rw [hdigits]
  dsimp only
  rw [String.append_assoc, String.append_assoc, String.toList_append, hexponent]
  -- a single digit has no point behind it
  cases rest with
  | nil =>
    refine ⟨⟨negative, [x], none, _⟩, ⟨hproper, fun _ h => (nomatch h), hpower⟩, rfl, ?_⟩
    rw [toList_digitText]
    rfl
  | cons y ys =>
    have hfraction : SomeDigits (y :: ys) := ⟨List.cons_ne_nil _ _, hrest⟩
    refine ⟨_, Numeral.spelled_fraction hproper hfraction hpower, rfl, ?_⟩
    rw [String.toList_append, String.toList_append, toList_digitText, toList_digitText,
      List.append_assoc, List.append_assoc]
    rfl

/-- The text of a finite number is that of a numeral. -/
theorem exists_numeral_text (hkeeps : l.keepsPoint = true) (hplus : l.plusSign = true) (f : Format)
    (negative : Bool) (m : Nat) (e : Int) :
    ∃ n : Numeral, n.Spelled ∧ (l.text f (.finite negative m e)).toList = n.print := by
  have hlead := lead_shortest l.tie f m e
  obtain ⟨n, hspelled, hsign, htext⟩ :
      ∃ n : Numeral, n.Spelled ∧ n.negative = negative
        ∧ (l.digits (shortest l.tie f m e)).toList = n.printUnsigned := by
    unfold Layout.digits
    split
    · exact exists_numeral_positional hkeeps hlead negative
    · exact exists_numeral_scientific hplus hlead negative
  refine ⟨n, hspelled, ?_⟩
  rw [Layout.text, String.toList_append, htext, Numeral.print, hsign]
  cases negative <;> rfl

/-- A finite real number is read as one number, though it may be another one, or out of range. -/
theorem exists_tokens_real (f : Format) (negative : Bool) (m : Nat) (e : Int) :
    ∃ v, ∀ cs, EndsNumber cs →
      tokens ((Number.real f (.finite negative m e)).text.toList ++ cs)
        = .number v :: tokens cs := by
  have hlayout : (Number.layout f).keepsPoint = true ∧ (Number.layout f).plusSign = true := by
    unfold Number.layout
    split <;> exact ⟨rfl, rfl⟩
  obtain ⟨n, hspelled, htext⟩ := exists_numeral_text hlayout.1 hlayout.2 f negative m e
  refine ⟨n.number n.stop, fun cs hcs => ?_⟩
  rw [Number.text, htext]
  exact tokens_numeral hspelled hcs

/-! ## 5. Values whose numbers may be read otherwise -/

/-- The compact text of a value is read as a tree, which may have other numbers than the value. -/
def Value.ReadAs (v : Value) (r : Raw) : Prop :=
  ∃ ts, (∀ cs, EndsNumber cs → Json.tokens (v.print ++ cs) = ts ++ Json.tokens cs)
    ∧ ∀ stack us, run .value stack (ts ++ us) = (finish r stack).go us

/-- Members whose values are read as the values of other members. -/
inductive MembersReadAs : List (String × Value) → Members → Prop
  | nil : MembersReadAs [] .closed
  | cons {key : String} {v : Value} {r : Raw} {ms : List (String × Value)} {rest : Members}
    (value : v.ReadAs r) (others : MembersReadAs ms rest) :
    MembersReadAs ((key, v) :: ms) (.cons (.ok key) r rest)

/-- A legible value is read as itself from its own tree. -/
theorem readAs_raw {v : Value} (hv : v.Legible) : v.ReadAs v.raw :=
  ⟨v.tokens, fun _ hcs => tokens_print hv hcs, v.runs⟩

/-- A number that is not whole is read from what is printed of it, though maybe as another number.
-/
theorem exists_readAs_real (f : Format) (negative : Bool) (m : Nat) (e : Int) :
    ∃ n, (Value.number (.real f (.finite negative m e))).ReadAs (.number n) := by
  obtain ⟨n, hn⟩ := exists_tokens_real f negative m e
  exact ⟨n, [.number n], hn, fun _ _ => run_cons ..⟩

/-- Members up to the end of their object. -/
theorem MembersReadAs.exists_tokens {m : String × Value} {ms : List (String × Value)}
    {members : Members} (h : MembersReadAs (m :: ms) members) :
    ∃ ts, (∀ cs, EndsNumber cs →
        tokens (printMembers (m :: ms) ++ cs) = .text (.ok m.1) :: ts ++ tokens cs)
      ∧ ∀ done stack us, run (.nextKey done) stack (.text (.ok m.1) :: ts ++ .closeObject :: us)
        = (finish (.object (Members.prependReverse done members)) stack).go us := by
  induction ms generalizing m members with
  | nil =>
    cases h with
    | cons value others =>
      obtain ⟨ts, htokens, hrun⟩ := value
      cases others
      refine ⟨.colon :: ts, fun cs hcs => ?_, fun done stack us => ?_⟩
      · rw [printMembers, List.append_assoc, tokens_printText, List.cons_append, tokens_colon,
          htokens cs hcs]
        rfl
      · rw [List.cons_append, List.cons_append, run_cons, step_nextKey_text, Step.go, run_cons,
          State.step, Step.go, hrun]
        exact run_cons ..
  | cons m' ms ih =>
    cases h with
    | @cons key v r _ rest value others =>
      obtain ⟨ts, htokens, hrun⟩ := value
      obtain ⟨ts', htokens', hrun'⟩ := ih others
      refine ⟨.colon :: ts ++ .comma :: .text (.ok m'.1) :: ts', fun cs hcs => ?_,
        fun done stack us => ?_⟩
      · have hprint : printMembers ((key, v) :: m' :: ms) ++ cs
            = printText key ++ ':' :: (v.print ++ ',' :: (printMembers (m' :: ms) ++ cs)) := by
          rw [printMembers_eq, joined_cons_cons, ← printMembers_eq]
          simp
        rw [hprint, tokens_printText, tokens_colon, htokens _ (endsNumber_cons (by decide) _),
          tokens_comma, htokens' cs hcs]
        simp
      · rw [List.cons_append, List.append_assoc, List.cons_append, run_cons, step_nextKey_text,
          Step.go, run_cons, State.step, Step.go, hrun, List.cons_append, finish, Step.go, run_cons]
        exact hrun' ((.ok key, r) :: done) stack us

/-- An object is read as it was written if its members are. -/
theorem readAs_object {ms : List (String × Value)} {members : Members}
    (h : MembersReadAs ms members) : (Value.object ms).ReadAs (.object members) := by
  cases ms with
  | nil =>
    cases h
    refine ⟨[.openObject, .closeObject], fun cs _ => ?_, fun stack us => ?_⟩
    · rw [Value.print, printMembers]
      exact (tokens_openObject _).trans (congrArg _ (tokens_closeObject cs))
    · exact (run_cons ..).trans (run_cons ..)
  | cons m ms =>
    obtain ⟨ts, htokens, hrun⟩ := h.exists_tokens
    refine ⟨.openObject :: .text (.ok m.1) :: ts ++ [.closeObject], fun cs _ => ?_,
      fun stack us => ?_⟩
    · have hclose := htokens _ (endsNumber_cons (c := '}') (by decide) cs)
      rw [Value.print]
      simp [tokens_openObject, hclose, tokens_closeObject]
    · rw [List.append_assoc, List.cons_append, run_cons]
      exact hrun [] stack us

/-- The compact text of a value is read to its end. -/
theorem Value.ReadAs.ofText_compact {v : Value} {r : Raw} (h : v.ReadAs r) :
    Raw.ofText v.compact = (r, []) := by
  obtain ⟨ts, htokens, hrun⟩ := h
  have htext := htokens [] endsNumber_nil
  rw [List.append_nil] at htext
  rw [Raw.ofText, Value.compact, String.toList_ofList, htext, Json.tokens, hrun]
  rfl

end Widgetry.Json
