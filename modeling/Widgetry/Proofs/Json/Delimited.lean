import Widgetry.Proofs.Json.Ending

/-!
Documents that end where they end. A text is a document if it holds one whole value and nothing else
(`IsDocument`). What is put behind a bracket leaves the tokens before it as they are
(`tokens_append`), so a document in braces is at an end: with anything but white space behind it, it
is no document any more (`IsDocument.gaps_of_append`). Where such a document stands at the front of
a text, no other part at the front of the text is one, white space aside
(`IsDocument.eq_append_of_append_eq`).
-/

namespace Widgetry.Json

/-- A text that holds one whole value and nothing else but white space. -/
structure IsDocument (text : String) : Prop where
  whole : (Raw.ofText text).1.Whole
  ended : (Raw.ofText text).2 = []

/-- What is decoded is a document. -/
theorem Decoder.Wholly.isDocument {α : Type} {read : Decoder α} (h : read.Wholly) {text : String}
    {a : α} (ha : read.ofText text = .ok a) : IsDocument text where
  whole := h (Decoder.of_ofText_eq_ok ha).1
  ended := (Decoder.of_ofText_eq_ok ha).2

/-! ## 1. Tokens of joined texts -/

theorem tokens_append_of_gaps {gaps : List Char} (h : ∀ c ∈ gaps, isGap c = true)
    (cs : List Char) : tokens (gaps ++ cs) = tokens cs := by
  induction gaps with
  | nil => rfl
  | cons c gaps ih =>
    obtain ⟨hc, hgaps⟩ := List.forall_mem_cons.1 h
    rw [List.cons_append, tokens_gap hc, ih hgaps]

/-- A token in front of a rest that is not empty stays in front when more follows. -/
theorem scanToken_append {c : Char} {cs rest : List Char} {t : Token}
    (hscan : scanToken c cs = (t, rest)) (hwhole : t.isWhole = true) (hrest : rest ≠ [])
    (more : List Char) : scanToken c (cs ++ more) = (t, rest ++ more) := by
  obtain ⟨w, rfl, hlocal⟩ := local_scanToken c hscan hwhole
  rw [List.append_assoc]
  exact hlocal _ (beginsLike_append hrest more)

/-- A bracket is the same token whatever follows. -/
theorem scanToken_bracket {c b : Char} {cs rest : List Char} {t : Token}
    (hscan : scanToken c cs = (t, rest)) (hb : t.bracket? = some b) (ds : List Char) :
    scanToken c ds = (t, ds) := by
  obtain ⟨rfl, -⟩ := singleBracket_scanToken c cs b (by rw [hscan]; exact hb)
  cases t with
  | openArray | closeArray | openObject | closeObject =>
    obtain rfl := Option.some.inj hb
    rfl
  | _ => cases hb

/-- What follows a bracket does not change the tokens up to it. -/
theorem tokens_append {cs : List Char} {t : Token} {b : Char}
    (h : (tokens cs).getLast? = some t) (hb : t.bracket? = some b) (more : List Char) :
    tokens (cs ++ more) = tokens cs ++ tokens more := by
  fun_induction tokens cs with
  | case1 => cases h
  | case2 c cs hgap ih => rw [List.cons_append, tokens_gap hgap, ih h]
  | case3 c cs hgap kept skipped rest hscan =>
    obtain rfl := Option.some.inj h
    cases hb
  | case4 c cs hgap kept skipped rest hscan =>
    obtain rfl := Option.some.inj h
    cases hb
  | case5 c cs hgap t' rest hbroken hbrokenText hscan ih =>
    have hwhole : t'.isWhole = true := by
      cases t' with
      | broken kept skipped => exact absurd rfl (hbroken kept skipped)
      | brokenText kept skipped => exact absurd rfl (hbrokenText kept skipped)
      | _ => rfl
    have hgap : isGap c = false := Bool.eq_false_iff.2 hgap
    -- the last token is a bracket, which cannot grow; each token before it ends where the next
    -- begins
    cases hrest : tokens rest with
    | nil =>
      obtain rfl : t' = t := by simpa [hrest] using h
      obtain ⟨-, hcs⟩ := singleBracket_scanToken c cs b (by rw [hscan]; exact hb)
      rw [hscan] at hcs
      obtain rfl : rest = cs := hcs
      rw [List.cons_append, tokens_of_scanToken hgap (scanToken_bracket hscan hb _) hwhole,
        tokens_append_of_gaps (isGap_of_tokens_eq_nil hrest)]
      rfl
    | cons u us =>
      have hne : rest ≠ [] := by
        rintro rfl
        simp [tokens] at hrest
      have hlast : (tokens rest).getLast? = some t := by
        rw [List.getLast?_cons, hrest, List.getLast?_cons, Option.getD_some] at h
        rw [hrest, List.getLast?_cons, h]
      rw [List.cons_append,
        tokens_of_scanToken hgap (scanToken_append hscan hwhole hne more) hwhole, ih hlast, hrest]
      rfl

/-! ## 2. Documents in braces -/

variable {st : State} {stack : List Frame} {b : Token}

/-- A whole tree is made of its own tokens, and what follows them is left. -/
theorem run_append {ts : List Token} {v : Raw} (h : st.outermost? stack = some b)
    (hrun : run st stack ts = (v, [])) (hv : v.Whole) (us : List Token) :
    run st stack (ts ++ us) = (v, us) := by
  induction ts generalizing st stack with
  | nil =>
    obtain ⟨rfl, -⟩ := Prod.mk.inj hrun
    exact absurd hv (not_whole_ended st stack)
  | cons t ts ih =>
    have hkeeps := keeps_step (t := t) h
    rw [run] at hrun
    rw [List.cons_append, run]
    cases hstep : st.step stack t with
    | more st' stack' =>
      rw [hstep] at hrun hkeeps
      exact ih hkeeps hrun
    | done w =>
      rw [hstep] at hrun
      obtain ⟨rfl, rfl⟩ := Prod.mk.inj hrun
      rfl
    | halted w =>
      rw [hstep] at hrun hkeeps
      obtain ⟨rfl, -⟩ := Prod.mk.inj hrun
      exact absurd hv hkeeps

/-- Behind its opening brace a document in braces is made of its own tokens, up to the last of them,
the closing brace. -/
theorem IsDocument.run_eq {text : String} (h : IsDocument text)
    (hhead : text.toList.head? = some '{') :
    ∃ ts, tokens text.toList = .openObject :: ts
      ∧ run .firstKey [] ts = ((Raw.ofText text).1, []) ∧ ts.getLast? = some .closeObject := by
  obtain ⟨cs, hcs⟩ := List.head?_eq_some_iff.1 hhead
  have htokens : tokens text.toList = .openObject :: tokens cs := by
    rw [hcs, tokens_openObject]
  have htext : Raw.ofText text = run .firstKey [] (tokens cs) := by
    rw [Raw.ofText, htokens]
    rfl
  have hrun : run .firstKey [] (tokens cs) = ((Raw.ofText text).1, []) :=
    htext.symm.trans (Prod.ext rfl h.ended)
  exact ⟨tokens cs, htokens, hrun, getLast?_of_run rfl hrun h.whole⟩

/-- What stands behind a document in braces has tokens of its own. -/
theorem IsDocument.tokens_append {text : String} (h : IsDocument text)
    (hhead : text.toList.head? = some '{') (more : String) :
    tokens (text ++ more).toList = tokens text.toList ++ tokens more.toList := by
  obtain ⟨ts, htokens, -, hlast⟩ := h.run_eq hhead
  have hend : (tokens text.toList).getLast? = some .closeObject := by
    rw [htokens, List.getLast?_cons, hlast]
    rfl
  rw [String.toList_append]
  exact Json.tokens_append hend rfl more.toList

/-- Behind a document in braces only white space may stand. -/
theorem IsDocument.gaps_of_append {text more : String} (h : IsDocument text)
    (hhead : text.toList.head? = some '{') (h' : IsDocument (text ++ more)) :
    ∀ c ∈ more.toList, isGap c = true := by
  obtain ⟨ts, htokens, hrun, -⟩ := h.run_eq hhead
  have hended := h'.ended
  rw [Raw.ofText, h.tokens_append hhead, htokens] at hended
  have hmore : (run .firstKey [] (ts ++ tokens more.toList)).2 = [] := hended
  rw [run_append rfl hrun h.whole] at hmore
  exact isGap_of_tokens_eq_nil hmore

/-- White space behind a document in braces does not matter. -/
theorem IsDocument.ofText_append {text gaps : String} (h : IsDocument text)
    (hhead : text.toList.head? = some '{') (hgaps : ∀ c ∈ gaps.toList, isGap c = true) :
    Raw.ofText (text ++ gaps) = Raw.ofText text := by
  have hnone : tokens gaps.toList = [] := by
    have hempty := tokens_append_of_gaps hgaps []
    rwa [List.append_nil, tokens] at hempty
  rw [Raw.ofText, h.tokens_append hhead, hnone, List.append_nil, Raw.ofText]

theorem not_isDocument_empty : ¬IsDocument "" := fun h =>
  absurd h.whole (by simp [Raw.ofText, tokens, run, State.ended, State.halt, plug])

/-- **A document in braces at the front of a text is the only document there**, white space behind
it aside. -/
theorem IsDocument.eq_append_of_append_eq {text part : String} (h : IsDocument text)
    (hhead : text.toList.head? = some '{') (hlast : text.toList.getLast? = some '}')
    (hpart : IsDocument part) {rest rest' : String} (heq : part ++ rest' = text ++ rest) :
    ∃ gaps, part = text ++ gaps ∧ ∀ c ∈ gaps.toList, isGap c = true := by
  have hlists := congrArg String.toList heq
  rw [String.toList_append, String.toList_append] at hlists
  rcases List.append_eq_append_iff.1 hlists with ⟨more, htext, -⟩ | ⟨gaps, hsplit, -⟩
  · -- the document would go on behind a part of it that is one already
    have hjoined : text = part ++ String.ofList more := by
      rw [← String.toList_inj, String.toList_append, String.toList_ofList, htext]
    have hfirst : part.toList.head? = some '{' := by
      cases hchars : part.toList with
      | nil =>
        obtain rfl : part = "" := String.toList_inj.1 hchars
        exact absurd hpart not_isDocument_empty
      | cons c cs => simpa [htext, hchars] using hhead
    have hgaps := hpart.gaps_of_append hfirst (hjoined ▸ h)
    rw [String.toList_ofList] at hgaps
    cases hend : more.getLast? with
    | none =>
      rw [List.getLast?_eq_none_iff] at hend
      refine ⟨"", ?_, fun _ hc => absurd hc List.not_mem_nil⟩
      rw [hjoined, hend]
      simp
    | some c =>
      obtain rfl : c = '}' := by simpa [htext, hend] using hlast
      exact absurd (hgaps _ (List.mem_of_getLast? hend)) (by decide)
  · have hjoined : part = text ++ String.ofList gaps := by
      rw [← String.toList_inj, String.toList_append, String.toList_ofList, hsplit]
    refine ⟨String.ofList gaps, hjoined, ?_⟩
    exact h.gaps_of_append hhead (hjoined ▸ hpart)

end Widgetry.Json
