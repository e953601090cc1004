import Widgetry.Proofs.Json.Printing

/-!
White space between tokens. The lexemes of a text are the characters of its tokens one by one, and
the text is its lexemes with white space before and after them (`spaced_lexemes`). A token is what
its own characters say, whatever follows them, so the tokens of a text are those of its lexemes
(`tokens_eq_map_lexemes`), and texts that differ in white space between tokens only are read as the
same tree (`ofText_eq_of_lexemes_eq`).

Why a token is local is shown scanner by scanner: each takes characters from the front and leaves
the rest. Of the rest it sees the first character at most, and gives the same token where the rest
begins otherwise like this, or where nothing is left at all (`Local`).
-/

namespace Widgetry.Json

/-- A text that is empty or begins like another one. -/
def BeginsLike (cs ds : List Char) : Prop :=
  ∀ c, cs.head? = some c → ds.head? = some c

/-- A scanner of a token takes characters from the front of a text, and makes the same token of
these characters with anything behind them that begins like the rest. -/
def Local (scan : List Char → Token × List Char) : Prop :=
  ∀ ⦃cs t rest⦄, scan cs = (t, rest) → t.isWhole = true →
    ∃ w, cs = w ++ rest ∧ ∀ more, BeginsLike more rest → scan (w ++ more) = (t, more)

theorem beginsLike_nil (cs : List Char) : BeginsLike [] cs := fun _ h => nomatch h

/-- What begins like a text also does behind the same characters. -/
theorem BeginsLike.append {cs ds : List Char} (h : BeginsLike cs ds) (w : List Char) :
    BeginsLike (w ++ cs) (w ++ ds) := by
  cases w with
  | nil => exact h
  | cons c w => exact fun _ hd => hd

/-- A text with more behind it begins like the text, unless this is empty. -/
theorem beginsLike_append {cs : List Char} (h : cs ≠ []) (more : List Char) :
    BeginsLike (cs ++ more) cs := by
  cases cs with
  | nil => exact absurd rfl h
  | cons c cs => exact fun _ hd => hd

/-! ## 1. Quoted texts -/

/-- A quoted text ends with its closing quote, whatever follows. -/
def Closes (cs : List Char) : Prop :=
  ∃ w, cs = w ++ (scanText cs).rest
    ∧ ∀ more, scanText (w ++ more) = { scanText cs with rest := more }

/-- One more piece in front does not change where a text ends. -/
theorem Closes.push {front cs : List Char} {p : Piece}
    (hfront : ∀ cs, scanText (front ++ cs) = (scanText cs).push p) (h : Closes cs) :
    Closes (front ++ cs) := by
  obtain ⟨w, hw, hscan⟩ := h
  refine ⟨front ++ w, ?_, fun more => ?_⟩
  · rw [hfront, List.append_assoc]
    exact congrArg (front ++ ·) hw
  · rw [hfront, List.append_assoc, hfront, hscan]
    rfl

/-- A text that did not stop early was closed. -/
theorem closes_of_stopped_eq_none {cs : List Char} (h : (scanText cs).stopped = none) :
    Closes cs := by
  fun_induction scanText cs with
  | case2 rest => exact ⟨['"'], by simp [scanText], by simp [scanText]⟩
  | case3 a b c d rest n hn ih =>
    have hfront (cs : List Char) :
        scanText (['\\', 'u', a, b, c, d] ++ cs) = (scanText cs).push (.code n) := by
      simp [scanText, hn]
    exact (ih h).push hfront
  | case6 c rest hu hu' e he ih =>
    have hne : c ≠ 'u' := by
      rintro rfl
      simp [shortEscape?] at he
    have hfront (cs : List Char) : scanText (['\\', c] ++ cs) = (scanText cs).push (.short e) := by
      simp [scanText, he, hne]
    exact (ih h).push hfront
  | case10 c rest hquote hcode hu hpair hlast hcontrol ih =>
    have hescape : c ≠ '\\' := by
      rintro rfl
      cases rest with
      | nil => exact hlast rfl rfl
      | cons d rest => exact hpair d rest rfl rfl
    have hfront (cs : List Char) : scanText ([c] ++ cs) = (scanText cs).push (.char c) := by
      rw [List.singleton_append, scanText_plain hquote hescape, if_neg hcontrol]
    exact (ih h).push hfront
  | _ => cases h

/-- The token of a text that is not closed is broken. -/
theorem stopped_eq_none_of_isWhole {s : Scanned} (h : s.token.isWhole = true) :
    s.stopped = none := by
  obtain ⟨pieces, stopped, rest⟩ := s
  cases stopped with
  | none => rfl
  | some f =>
    cases hjoin : (joinPieces (some f) 1 pieces).map String.ofList <;>
      simp [Scanned.token, hjoin, Token.isWhole] at h

/-- What is read of a text depends on the text up to its closing quote. -/
theorem local_scanText : Local fun cs => ((scanText cs).token, (scanText cs).rest) := by
  intro cs t rest h hwhole
  obtain ⟨rfl, rfl⟩ := Prod.mk.inj h
  obtain ⟨w, hw, hscan⟩ := closes_of_stopped_eq_none (stopped_eq_none_of_isWhole hwhole)
  refine ⟨w, hw, fun more _ => ?_⟩
  dsimp only
  rw [hscan]
  rfl

/-! ## 2. Numbers -/

/-- Digits at the front are followed by no digit, so they are there in front of anything else that
begins like the rest. -/
theorem exists_digits {cs w rest : List Char} {ds : List Nat}
    (h : leadingDigits cs = (ds, w ++ rest)) :
    ∃ digits, cs = digits ++ (w ++ rest)
      ∧ ∀ more, BeginsLike more rest → leadingDigits (digits ++ w ++ more) = (ds, w ++ more) := by
  obtain ⟨rfl, hrest⟩ := Prod.mk.inj h
  have hdigits : ∀ c ∈ cs.takeWhile Char.isDigit, c.isDigit = true := fun c hc =>
    List.all_eq_true.1 List.all_takeWhile c hc
  have hstop {more : List Char} (hmore : BeginsLike more rest) :
      (w ++ more).takeWhile Char.isDigit = [] ∧ (w ++ more).dropWhile Char.isDigit = w ++ more := by
    cases hnext : w ++ more with
    | nil => exact ⟨rfl, rfl⟩
    | cons c after =>
      have hhead := List.head?_dropWhile_not Char.isDigit cs
      rw [hrest, hmore.append w c (by rw [hnext]; rfl)] at hhead
      have hc : ¬c.isDigit = true := by simpa using hhead
      exact ⟨List.takeWhile_cons_of_neg hc, List.dropWhile_cons_of_neg hc⟩
  refine ⟨cs.takeWhile Char.isDigit, ?_, fun more hmore => ?_⟩
  · rw [← hrest, List.takeWhile_append_dropWhile]
  · rw [List.append_assoc, leadingDigits, List.takeWhile_append_of_pos hdigits,
      List.dropWhile_append_of_pos hdigits, (hstop hmore).1, (hstop hmore).2, List.append_nil]

/-- A sign is followed by what is scanned after it, so it is there in front of anything else that
begins like the rest. -/
theorem exists_sign {cs w rest : List Char} {sign : Option Bool}
    (h : exponentSign cs = (sign, w ++ rest)) :
    ∃ front, cs = front ++ (w ++ rest)
      ∧ ∀ more, BeginsLike more rest →
        exponentSign (front ++ w ++ more) = (sign, w ++ more) := by
  unfold exponentSign at h
  split at h
  · obtain ⟨rfl, rfl⟩ := Prod.mk.inj h
    exact ⟨['+'], rfl, fun _ _ => rfl⟩
  · obtain ⟨rfl, rfl⟩ := Prod.mk.inj h
    exact ⟨['-'], rfl, fun _ _ => rfl⟩
  · rename_i hplus hminus
    obtain ⟨rfl, rfl⟩ := Prod.mk.inj h
    refine ⟨[], rfl, fun more hmore => ?_⟩
    rw [List.nil_append]
    cases hnext : w ++ more with
    | nil => rfl
    | cons c after =>
      have hhead := hmore.append w c (by rw [hnext]; rfl)
      obtain ⟨ds, hds⟩ := List.head?_eq_some_iff.1 hhead
      have hc : c ≠ '+' := by
        rintro rfl
        exact hplus _ hds
      have hc' : c ≠ '-' := by
        rintro rfl
        exact hminus _ hds
      simp [exponentSign, hc, hc']

/-- A number without its digit is no whole token. -/
theorem not_isWhole_missingDigit (before : Nat) (cs : List Char) :
    (missingDigit before cs).isWhole = false := by
  cases cs <;> rfl

/-- The digits of an exponent are read up to the first character that is none. -/
theorem local_scanPower (n : Numeral) (before : Nat) (sign : Option Bool) :
    Local (scanPower n before sign) := by
  intro cs t rest h hwhole
  rw [scanPower] at h
  cases hdigits : leadingDigits cs with
  | mk ds after =>
    rw [hdigits] at h
    cases ds with
    | nil =>
      obtain ⟨rfl, -⟩ := Prod.mk.inj h
      rw [not_isWhole_missingDigit] at hwhole
      cases hwhole
    | cons d ds =>
      obtain ⟨rfl, rfl⟩ := Prod.mk.inj h
      obtain ⟨digits, rfl, hmore⟩ := exists_digits (w := []) hdigits
      refine ⟨digits, rfl, fun more hlike => ?_⟩
      have hread := hmore more hlike
      rw [List.append_nil, List.nil_append] at hread
      rw [scanPower, hread]

/-- An exponent is read without regard to what follows it. -/
theorem local_scanExponent (n : Numeral) (before : Nat) : Local (scanExponent n before) := by
  intro cs t rest h hwhole
  cases cs with
  | nil =>
    obtain ⟨rfl, rfl⟩ := Prod.mk.inj h
    refine ⟨[], rfl, fun more hlike => ?_⟩
    cases more with
    | nil => rfl
    | cons c more => cases hlike c rfl
  | cons c cs =>
    rw [scanExponent] at h
    split at h
    · rename_i hc
      obtain ⟨w, hw, hscan⟩ := local_scanPower n before (exponentSign cs).1 h hwhole
      obtain ⟨sign, rfl, hsign⟩ := exists_sign (Prod.ext rfl hw)
      refine ⟨c :: (sign ++ w), by rw [List.cons_append, List.append_assoc], fun more hlike => ?_⟩
      rw [List.cons_append, scanExponent, if_pos hc, hsign more hlike]
      exact hscan more hlike
    · rename_i hc
      obtain ⟨rfl, rfl⟩ := Prod.mk.inj h
      refine ⟨[], rfl, fun more hlike => ?_⟩
      cases more with
      | nil => rfl
      | cons d more =>
        obtain rfl : c = d := Option.some.inj (hlike d rfl)
        rw [List.nil_append, scanExponent, if_neg hc]

/-- Without a point there is no fraction. -/
theorem scanFraction_of_ne {cs : List Char} (n : Numeral) (before : Nat)
    (h : ∀ ds, cs ≠ '.' :: ds) : scanFraction n before cs = scanExponent n before cs := by
  rw [scanFraction]
  exact fun ds hds => h ds hds

/-- A fraction is read without regard to what follows it. -/
theorem local_scanFraction (n : Numeral) (before : Nat) : Local (scanFraction n before) := by
  intro cs t rest h hwhole
  by_cases hpoint : ∃ ds, cs = '.' :: ds
  · obtain ⟨cs, rfl⟩ := hpoint
    rw [scanFraction] at h
    cases hdigits : leadingDigits cs with
    | mk ds after =>
      rw [hdigits] at h
      cases ds with
      | nil =>
        obtain ⟨rfl, -⟩ := Prod.mk.inj h
        rw [not_isWhole_missingDigit] at hwhole
        cases hwhole
      | cons d ds =>
        obtain ⟨w, rfl, hscan⟩ := local_scanExponent _ _ h hwhole
        obtain ⟨digits, rfl, hmore⟩ := exists_digits hdigits
        refine ⟨'.' :: (digits ++ w), by rw [List.cons_append, List.append_assoc],
          fun more hlike => ?_⟩
        rw [List.cons_append, scanFraction, hmore more hlike]
        exact hscan more hlike
  · have hnone : ∀ ds, cs ≠ '.' :: ds := not_exists.1 hpoint
    rw [scanFraction_of_ne n before hnone] at h
    obtain ⟨w, rfl, hscan⟩ := local_scanExponent n before h hwhole
    refine ⟨w, rfl, fun more hlike => ?_⟩
    have hnone' : ∀ ds, w ++ more ≠ '.' :: ds := by
      intro ds hds
      obtain ⟨es, hes⟩ := List.head?_eq_some_iff.1 (hlike.append w '.' (by rw [hds]; rfl))
      exact hnone es hes
    rw [scanFraction_of_ne n before hnone', hscan more hlike]

/-- A number is read without regard to what follows it. -/
theorem local_scanUnsigned (negative : Bool) : Local (scanUnsigned negative) := by
  intro cs t rest h hwhole
  rw [scanUnsigned] at h
  cases hdigits : leadingDigits cs with
  | mk ds after =>
    rw [hdigits] at h
    split at h
    · obtain ⟨rfl, -⟩ := Prod.mk.inj h
      rw [not_isWhole_missingDigit] at hwhole
      cases hwhole
    · obtain ⟨rfl, -⟩ := Prod.mk.inj h
      cases hwhole
    · rename_i hsome hzero heq
      obtain ⟨rfl, rfl⟩ := Prod.mk.inj heq
      obtain ⟨w, rfl, hscan⟩ := local_scanFraction _ _ h hwhole
      obtain ⟨digits, rfl, hmore⟩ := exists_digits hdigits
      refine ⟨digits ++ w, (List.append_assoc ..).symm, fun more hlike => ?_⟩
      rw [scanUnsigned, hmore more hlike]
      split
      · rename_i heq
        exact absurd (Prod.mk.inj heq).1 hsome
      · rename_i heq
        exact absurd (Prod.mk.inj heq).1 (hzero _ _)
      · rename_i heq
        obtain ⟨rfl, rfl⟩ := Prod.mk.inj heq
        exact hscan more hlike

/-! ## 3. Tokens -/

/-- A word is read letter by letter. -/
theorem local_scanWord (token : Token) (before : Nat) (word : List Char) :
    Local (scanWord token before word) := by
  intro cs t rest h hwhole
  induction word generalizing cs before with
  | nil =>
    obtain ⟨rfl, rfl⟩ := Prod.mk.inj h
    exact ⟨[], rfl, fun _ _ => rfl⟩
  | cons c word ih =>
    cases cs with
    | nil =>
      obtain ⟨rfl, -⟩ := Prod.mk.inj h
      cases hwhole
    | cons d cs =>
      rw [scanWord] at h
      split at h
      · rename_i hc
        obtain ⟨w, rfl, hscan⟩ := ih _ h
        refine ⟨d :: w, rfl, fun more hlike => ?_⟩
        rw [List.cons_append, scanWord, if_pos hc, hscan more hlike]
      · obtain ⟨rfl, -⟩ := Prod.mk.inj h
        cases hwhole

/-- Tokens of one character. -/
theorem local_single (token : Token) : Local fun cs => (token, cs) := by
  intro cs t rest h _
  obtain ⟨rfl, rfl⟩ := Prod.mk.inj h
  exact ⟨[], rfl, fun _ _ => rfl⟩

theorem local_broken (kept skipped : Fault) : Local fun _ => (.broken kept skipped, []) := by
  intro cs t rest h hwhole
  obtain ⟨rfl, -⟩ := Prod.mk.inj h
  cases hwhole

/-- A number without sign starts with a digit, which is the first character of its token. -/
theorem local_scanUnsigned_cons (c : Char) : Local fun cs => scanUnsigned false (c :: cs) := by
  intro cs t rest h hwhole
  obtain ⟨w, hw, hscan⟩ := local_scanUnsigned false h hwhole
  cases w with
  | nil =>
    obtain ⟨rfl, -⟩ := Prod.mk.inj (hscan [] (beginsLike_nil rest))
    cases hwhole
  | cons d w =>
    obtain ⟨rfl, rfl⟩ := List.cons.inj hw
    exact ⟨w, rfl, hscan⟩

/-- A choice between two scanners is local if both are. -/
theorem local_ite {p : Prop} [Decidable p] {scan scan' : List Char → Token × List Char}
    (h : p → Local scan) (h' : ¬p → Local scan') :
    Local fun cs => if p then scan cs else scan' cs := by
  by_cases hp : p
  · simpa only [if_pos hp] using h hp
  · simpa only [if_neg hp] using h' hp

/-- A token is what its characters say, whatever follows them. -/
theorem local_scanToken (c : Char) : Local (scanToken c) := by
  unfold scanToken
  iterate 6 refine local_ite (fun _ => local_single _) fun _ => ?_
  refine local_ite (fun _ => local_scanText) fun _ => ?_
  refine local_ite (fun _ => local_scanUnsigned true) fun _ => ?_
  refine local_ite (fun _ => local_scanUnsigned_cons c) fun _ => ?_
  iterate 3 refine local_ite (fun _ => local_scanWord _ _ _) fun _ => ?_
  exact local_broken _ _

/-! ## 4. Lexemes -/

/-- The lexemes of a text: the characters of its tokens, token by token. A token that is broken off
has all that is left. -/
def lexemes : List Char → List (List Char)
  | [] => []
  | c :: cs =>
    if isGap c then lexemes cs
    else if (scanToken c cs).1.isWhole then
      (c :: cs.take (cs.length - (scanToken c cs).2.length)) :: lexemes (scanToken c cs).2
    else [c :: cs]
termination_by cs => cs.length
decreasing_by
  · simp
  · exact Nat.lt_succ_of_le (scanToken_rest_length c cs)

/-- The token of a lexeme. -/
def lexemeToken : List Char → Token
  | [] => .broken Flaw.noValue.here Flaw.noValue.here
  | c :: cs => (scanToken c cs).1

/-- Lexemes with white space before and after them. -/
inductive Spaced : List (List Char) → List Char → Prop
  | nil : Spaced [] []
  | gap {ls : List (List Char)} {c : Char} {cs : List Char} (white : isGap c = true)
    (rest : Spaced ls cs) : Spaced ls (c :: cs)
  | lexeme {l : List Char} {ls : List (List Char)} {cs : List Char} (rest : Spaced ls cs) :
    Spaced (l :: ls) (l ++ cs)

/-- A token at the front of a text is cut off with all its characters, which make it alone. -/
theorem take_of_scanToken {c : Char} {cs rest : List Char} {t : Token}
    (hscan : scanToken c cs = (t, rest)) (hwhole : t.isWhole = true) :
    cs = cs.take (cs.length - rest.length) ++ rest
      ∧ lexemeToken (c :: cs.take (cs.length - rest.length)) = t := by
  obtain ⟨w, rfl, hlocal⟩ := local_scanToken c hscan hwhole
  have halone := hlocal [] (beginsLike_nil rest)
  rw [List.append_nil] at halone
  have htake : (w ++ rest).take ((w ++ rest).length - rest.length) = w := by
    rw [List.length_append, Nat.add_sub_cancel, List.take_left]
  rw [htake, lexemeToken, halone]
  exact ⟨rfl, rfl⟩

/-- A token that is broken off is the last one. -/
theorem tokens_of_broken {c : Char} {cs : List Char} (hgap : isGap c = false)
    (hbroken : (scanToken c cs).1.isWhole = false) :
    tokens (c :: cs) = [(scanToken c cs).1] := by
  rw [tokens, if_neg (by simp [hgap])]
  split
  · rename_i heq
    rw [heq]
  · rename_i heq
    rw [heq]
  · rename_i t rest hkept hskipped heq
    rw [heq] at hbroken
    cases t with
    | broken kept skipped => exact absurd rfl (hkept kept skipped)
    | brokenText kept skipped => exact absurd rfl (hskipped kept skipped)
    | _ => cases hbroken

/-- The tokens of a text are those of its lexemes. -/
theorem tokens_eq_map_lexemes (cs : List Char) : tokens cs = (lexemes cs).map lexemeToken := by
  fun_induction lexemes cs with
  | case1 => rw [tokens, List.map_nil]
  | case2 c cs hgap ih => rw [tokens_gap hgap, ih]
  | case3 c cs hgap hwhole ih =>
    have hscan : scanToken c cs = ((scanToken c cs).1, (scanToken c cs).2) := rfl
    obtain ⟨-, htoken⟩ := take_of_scanToken hscan hwhole
    rw [tokens_of_scanToken (Bool.eq_false_iff.2 hgap) hscan hwhole, ih, List.map_cons, htoken]
  | case4 c cs hgap hbroken =>
    rw [tokens_of_broken (Bool.eq_false_iff.2 hgap) (Bool.eq_false_iff.2 hbroken)]
    rfl

/-- A text is its lexemes with white space between them. -/
theorem spaced_lexemes (cs : List Char) : Spaced (lexemes cs) cs := by
  fun_induction lexemes cs with
  | case1 => exact .nil
  | case2 c cs hgap ih => exact .gap hgap ih
  | case3 c cs hgap hwhole ih =>
    have hscan : scanToken c cs = ((scanToken c cs).1, (scanToken c cs).2) := rfl
    obtain ⟨hcut, -⟩ := take_of_scanToken hscan hwhole
    have hspaced := Spaced.lexeme ih (l := c :: cs.take (cs.length - (scanToken c cs).2.length))
    rwa [List.cons_append, ← hcut] at hspaced
  | case4 c cs hgap hbroken =>
    have hspaced := Spaced.lexeme .nil (l := c :: cs)
    rwa [List.append_nil] at hspaced

/-- White space between tokens does not matter to the tree of a text. -/
theorem ofText_eq_of_lexemes_eq {text text' : String}
    (h : lexemes text.toList = lexemes text'.toList) : Raw.ofText text = Raw.ofText text' := by
  rw [Raw.ofText, Raw.ofText, tokens_eq_map_lexemes, tokens_eq_map_lexemes, h]

/-- White space in a quoted text is a part of its lexeme. -/
example :
    lexemes "[\"a b\",[1.5e3,null]]".toList = lexemes " [ \"a b\" , [\t1.5e3,\nnull ] ]".toList
      ∧ lexemes "[\"a b\",[1.5e3,null]]".toList ≠ lexemes "[\"ab\",[1.5e3,null]]".toList := by
  decide +kernel

end Widgetry.Json
