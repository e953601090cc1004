import Widgetry.Proofs.Json.Lexeme
import Widgetry.Proofs.Json.Whole

/-!
Where records begin and end in their texts. While an array or object is being read, the outermost
of all that is open stays the same until its own bracket closes it (`keeps_step`), so the last token
of a text that is read as a record is the bracket that belongs to the first one. Brackets are single
characters, so such a text begins and ends with brackets of one kind, unless it has white space at
its ends (`ends_of_ofText`).
-/

namespace Widgetry.Json

/-! ## 1. What is open -/

/-- The token that closes a frame. -/
def Frame.closing : Frame → Token
  | .array _ => .closeArray
  | .object .. => .closeObject

/-- The token that closes the outermost of what is open: frames, and inside of them something that
a token closes. -/
def outermost (inner : Token) : List Frame → Token
  | [] => inner
  | frame :: stack => outermost frame.closing stack

/-- The token that closes the outermost of what is open in a state, if anything is. -/
def State.outermost? : State → List Frame → Option Token
  | .value, [] => none
  | .value, frame :: stack => some (outermost frame.closing stack)
  | .firstItem, stack | .nextItem _, stack | .afterItem _, stack =>
    some (outermost .closeArray stack)
  | .firstKey, stack | .nextKey _, stack | .colon .., stack | .afterMember _, stack =>
    some (outermost .closeObject stack)

/-- After a token the outermost of what was open is still open, or the token has closed it, or the
tree is cut off. -/
def Step.Keeps (b t : Token) : Step → Prop
  | .more st stack => st.outermost? stack = some b
  | .done _ => t = b
  | .halted v => ¬v.Whole

variable {st : State} {stack : List Frame} {t b : Token}

/-- Reading that has halted takes no more tokens. -/
theorem keeps_halt (st : State) (kept skipped : Fault) :
    (Step.halted (st.halt kept skipped stack)).Keeps b t :=
  not_whole_halt st kept skipped stack

/-- A finished value leaves the outermost open, unless it was this itself. -/
theorem keeps_finish (v : Raw) (h : outermost t stack = b) : (finish v stack).Keeps b t := by
  cases stack with
  | nil => exact h
  | cons frame stack => cases frame <;> exact congrArg some h

/-- A value leaves the outermost bracket as it is. -/
theorem keeps_stepValue (h : State.value.outermost? stack = some b) :
    (stepValue stack t).Keeps b t := by
  cases stack with
  | nil => cases h
  | cons frame stack =>
    have hfinish (v : Raw) : (finish v (frame :: stack)).Keeps b t :=
      keeps_finish v (Option.some.inj h)
    have hhalt (kept skipped : Fault) : ¬(plug (.broken kept skipped) (frame :: stack)).Whole :=
      not_whole_plug not_whole_broken _
    cases t with
    | openArray | openObject => exact h
    | null | bool _ | number _ | text _ => exact hfinish _
    | closeArray | closeObject | comma | colon | brokenText _ _ | broken _ _ => exact hhalt _ _

theorem keeps_stepKey {done : List RawMember} (h : outermost .closeObject stack = b) :
    (stepKey stack done t).Keeps b t := by
  cases t with
  | text key => exact congrArg some h
  | _ => exact keeps_halt (.nextKey done) _ _

/-- What is open stays open until its own bracket closes it. -/
theorem keeps_step (h : st.outermost? stack = some b) : (st.step stack t).Keeps b t := by
  -- only a closing bracket ends anything, and each sort of bracket only in states of its own
  cases st with
  | value => exact keeps_stepValue h
  | firstItem =>
    have hitem : State.value.outermost? (.array [] :: stack) = some b := h
    cases t with
    | closeArray => exact keeps_finish _ (Option.some.inj h)
    | _ => exact keeps_stepValue hitem
  | nextItem done =>
    have hitem : State.value.outermost? (.array done :: stack) = some b := h
    cases t with
    | closeArray => exact keeps_halt (.nextItem done) _ _
    | _ => exact keeps_stepValue hitem
  | afterItem done =>
    cases t with
    | comma => exact h
    | closeArray => exact keeps_finish _ (Option.some.inj h)
    | _ => exact keeps_halt (.afterItem done) _ _
  | firstKey =>
    cases t with
    | closeObject => exact keeps_finish _ (Option.some.inj h)
    | _ => exact keeps_stepKey (Option.some.inj h)
  | nextKey done =>
    cases t with
    | closeObject => exact keeps_halt (.nextKey done) _ _
    | _ => exact keeps_stepKey (Option.some.inj h)
  | colon done key =>
    cases t with
    | colon => exact h
    | _ => exact keeps_halt (.colon done key) _ _
  | afterMember done =>
    cases t with
    | comma => exact h
    | closeObject => exact keeps_finish _ (Option.some.inj h)
    | _ => exact keeps_halt (.afterMember done) _ _

/-! ## 2. The last token -/

/-- A whole tree that nothing follows ends with the bracket that closes the outermost of what was
open. -/
theorem getLast?_of_run {ts : List Token} {v : Raw} (h : st.outermost? stack = some b)
    (hrun : run st stack ts = (v, [])) (hv : v.Whole) : ts.getLast? = some b := by
  induction ts generalizing st stack with
  | nil =>
    obtain ⟨rfl, -⟩ := Prod.mk.inj hrun
    exact absurd hv (not_whole_ended st stack)
  | cons t ts ih =>
    have hkeeps := keeps_step (t := t) h
    rw [run] at hrun
    cases hstep : st.step stack t with
    | more st' stack' =>
      rw [hstep] at hrun hkeeps
      rw [List.getLast?_cons, ih hkeeps hrun]
      rfl
    | done w =>
      rw [hstep] at hrun hkeeps
      obtain ⟨-, rfl⟩ := Prod.mk.inj hrun
      exact congrArg some hkeeps
    | halted w =>
      rw [hstep] at hrun hkeeps
      obtain ⟨rfl, -⟩ := Prod.mk.inj hrun
      exact absurd hv hkeeps

/-- The brackets of objects and of arrays. -/
def brackets : List (Token × Token) :=
  [(.openObject, .closeObject), (.openArray, .closeArray)]

/-- The tokens of an object or array that nothing follows begin and end with its brackets. -/
theorem exists_brackets_of_run {ts : List Token} {v : Raw} (hrun : run .value [] ts = (v, []))
    (hv : v.Whole) (hform : (∃ ms, v = .object ms) ∨ ∃ xs, v = .array xs) :
    ∃ p ∈ brackets, ts.head? = some p.1 ∧ ts.getLast? = some p.2 := by
  cases ts with
  | nil =>
    obtain ⟨rfl, -⟩ := Prod.mk.inj hrun
    exact absurd hv (not_whole_ended .value [])
  | cons t ts =>
    cases t with
    | openObject =>
      have hopen : State.firstKey.outermost? [] = some .closeObject := rfl
      have hlast := getLast?_of_run hopen hrun hv
      exact ⟨_, List.mem_cons_self, rfl, by rw [List.getLast?_cons, hlast]; rfl⟩
    | openArray =>
      have hopen : State.firstItem.outermost? [] = some .closeArray := rfl
      have hlast := getLast?_of_run hopen hrun hv
      exact ⟨_, List.mem_cons_of_mem _ List.mem_cons_self, rfl,
        by rw [List.getLast?_cons, hlast]; rfl⟩
    | _ =>
      obtain ⟨rfl, -⟩ := Prod.mk.inj hrun
      rcases hform with ⟨ms, hms⟩ | ⟨xs, hxs⟩
      · cases hms
      · cases hxs

/-! ## 3. Brackets in a text -/

/-- The character of a bracket. -/
def Token.bracket? : Token → Option Char
  | .openArray => some '['
  | .closeArray => some ']'
  | .openObject => some '{'
  | .closeObject => some '}'
  | _ => none

/-- A text is no bracket, however it ends. -/
theorem bracket?_scanned (s : Scanned) : s.token.bracket? = none := by
  unfold Scanned.token
  split
  · rfl
  · dsimp only
    split <;> rfl

theorem bracket?_missingDigit (before : Nat) (cs : List Char) :
    (missingDigit before cs).bracket? = none := by
  cases cs <;> rfl

theorem bracket?_scanPower (n : Numeral) (before : Nat) (sign : Option Bool) (cs : List Char) :
    (scanPower n before sign cs).1.bracket? = none := by
  unfold scanPower
  split
  · exact bracket?_missingDigit ..
  · rfl

theorem bracket?_scanExponent (n : Numeral) (before : Nat) (cs : List Char) :
    (scanExponent n before cs).1.bracket? = none := by
  cases cs with
  | nil => rfl
  | cons c cs =>
    rw [scanExponent]
    split
    · exact bracket?_scanPower ..
    · rfl

theorem bracket?_scanFraction (n : Numeral) (before : Nat) (cs : List Char) :
    (scanFraction n before cs).1.bracket? = none := by
  unfold scanFraction
  split
  · split
    · exact bracket?_missingDigit ..
    · exact bracket?_scanExponent ..
  · exact bracket?_scanExponent ..

/-- A number is no bracket, nor is what was meant as one. -/
theorem bracket?_scanUnsigned (negative : Bool) (cs : List Char) :
    (scanUnsigned negative cs).1.bracket? = none := by
  unfold scanUnsigned
  split
  · exact bracket?_missingDigit ..
  · rfl
  · exact bracket?_scanFraction ..

/-- A word is no bracket, and a misspelled one is neither. -/
theorem bracket?_scanWord {t : Token} (ht : t.bracket? = none) (before : Nat)
    (word cs : List Char) : (scanWord t before word cs).1.bracket? = none := by
  fun_induction scanWord t before word cs with
  | case1 => exact ht
  | case2 => rfl
  | case3 before w ws c cs hc ih => exact ih
  | case4 => rfl

/-- A token is no bracket, or it is the one that a character in front of a text is. -/
def SingleBracket (c : Char) (cs : List Char) (scanned : Token × List Char) : Prop :=
  ∀ b, scanned.1.bracket? = some b → c = b ∧ scanned.2 = cs

/-- What is no bracket has nothing to show. -/
theorem singleBracket_of_none {c : Char} {cs : List Char} {scanned : Token × List Char}
    (h : scanned.1.bracket? = none) : SingleBracket c cs scanned := by
  intro b hb
  rw [h] at hb
  cases hb

theorem singleBracket_of_beq {c d : Char} {cs : List Char} {t : Token} (hc : (c == d) = true)
    (ht : t.bracket? = some d) : SingleBracket c cs (t, cs) :=
  fun _ hb => ⟨(beq_iff_eq.1 hc).trans (Option.some.inj (ht.symm.trans hb)), rfl⟩

theorem singleBracket_ite {c : Char} {cs : List Char} {p : Prop} [Decidable p]
    {scanned scanned' : Token × List Char} (h : p → SingleBracket c cs scanned)
    (h' : ¬p → SingleBracket c cs scanned') :
    SingleBracket c cs (if p then scanned else scanned') := by
  split
  · exact h ‹_›
  · exact h' ‹_›

/-- A bracket is a character by itself. -/
theorem singleBracket_scanToken (c : Char) (cs : List Char) :
    SingleBracket c cs (scanToken c cs) := by
  unfold scanToken
  iterate 4 refine singleBracket_ite (fun hc => singleBracket_of_beq hc rfl) fun _ => ?_
  refine singleBracket_ite (fun _ => singleBracket_of_none rfl) fun _ => ?_
  refine singleBracket_ite (fun _ => singleBracket_of_none rfl) fun _ => ?_
  refine singleBracket_ite (fun _ => singleBracket_of_none (bracket?_scanned _)) fun _ => ?_
  iterate 2
    refine singleBracket_ite (fun _ => singleBracket_of_none (bracket?_scanUnsigned ..)) fun _ => ?_
  iterate 3
    refine singleBracket_ite (fun _ => singleBracket_of_none (bracket?_scanWord rfl ..)) fun _ => ?_
  exact singleBracket_of_none rfl

/-- A text without tokens is white space. -/
theorem isGap_of_tokens_eq_nil {cs : List Char} (h : tokens cs = []) :
    ∀ c ∈ cs, isGap c = true := by
  fun_induction tokens cs with
  | case1 => exact fun _ hc => absurd hc List.not_mem_nil
  | case2 c cs hgap ih => exact List.forall_mem_cons.2 ⟨hgap, ih h⟩
  | _ => cases h

/-- What stands in front of the first bracket of a text that begins with it is white space. -/
theorem exists_of_head?_tokens {cs : List Char} {t : Token} {b : Char}
    (h : (tokens cs).head? = some t) (hb : t.bracket? = some b) :
    ∃ gaps rest, cs = gaps ++ b :: rest ∧ ∀ c ∈ gaps, isGap c = true := by
  fun_induction tokens cs with
  | case1 => cases h
  | case2 c cs hgap ih =>
    obtain ⟨gaps, rest, rfl, hgaps⟩ := ih h
    exact ⟨c :: gaps, rest, rfl, List.forall_mem_cons.2 ⟨hgap, hgaps⟩⟩
  | case3 c cs hgap kept skipped rest hscan =>
    obtain rfl := Option.some.inj h
    cases hb
  | case4 c cs hgap kept skipped rest hscan =>
    obtain rfl := Option.some.inj h
    cases hb
  | case5 c cs hgap t' rest hbroken hbrokenText hscan ih =>
    obtain rfl := Option.some.inj h
    obtain ⟨rfl, -⟩ := singleBracket_scanToken c cs b (by rw [hscan]; exact hb)
    exact ⟨[], cs, rfl, fun _ hc => absurd hc List.not_mem_nil⟩

/-- What stands behind the last bracket of a text that ends with it is white space. -/
theorem exists_of_getLast?_tokens {cs : List Char} {t : Token} {b : Char}
    (h : (tokens cs).getLast? = some t) (hb : t.bracket? = some b) :
    ∃ before gaps, cs = before ++ b :: gaps ∧ ∀ c ∈ gaps, isGap c = true := by
  fun_induction tokens cs with
  | case1 => cases h
  | case2 c cs hgap ih =>
    obtain ⟨before, gaps, rfl, hgaps⟩ := ih h
    exact ⟨c :: before, gaps, rfl, hgaps⟩
  | case3 c cs hgap kept skipped rest hscan =>
    obtain rfl := Option.some.inj h
    cases hb
  | case4 c cs hgap kept skipped rest hscan =>
    obtain rfl := Option.some.inj h
    cases hb
  | case5 c cs hgap t' rest hbroken hbrokenText hscan ih =>
    cases hrest : tokens rest with
    | nil =>
      obtain rfl : t' = t := by simpa [hrest] using h
      obtain ⟨rfl, hcs⟩ := singleBracket_scanToken c cs b (by rw [hscan]; exact hb)
      rw [hscan] at hcs
      exact ⟨[], rest, by rw [← hcs]; rfl, isGap_of_tokens_eq_nil hrest⟩
    | cons u us =>
      have hlast : (tokens rest).getLast? = some t := by
        rw [List.getLast?_cons, hrest, List.getLast?_cons, Option.getD_some] at h
        rw [hrest, List.getLast?_cons, h]
      have hwhole : t'.isWhole = true := by
        cases t' with
        | broken kept skipped => exact absurd rfl (hbroken kept skipped)
        | brokenText kept skipped => exact absurd rfl (hbrokenText kept skipped)
        | _ => rfl
      obtain ⟨w, rfl, -⟩ := local_scanToken c hscan hwhole
      obtain ⟨before, gaps, rfl, hgaps⟩ := ih hlast
      exact ⟨c :: (w ++ before), gaps, by simp, hgaps⟩

/-! ## 4. Texts of records -/

/-- The first and the last character of objects and of arrays. -/
def ends : List (Char × Char) :=
  [('{', '}'), ('[', ']')]

/-- The brackets of arrays and objects are single characters. -/
theorem exists_of_mem_brackets {p : Token × Token} (h : p ∈ brackets) :
    ∃ e ∈ ends, p.1.bracket? = some e.1 ∧ p.2.bracket? = some e.2 := by
  simp only [brackets, List.mem_cons, List.not_mem_nil, or_false] at h
  rcases h with rfl | rfl
  · exact ⟨_, List.mem_cons_self, rfl, rfl⟩
  · exact ⟨_, List.mem_cons_of_mem _ List.mem_cons_self, rfl, rfl⟩

/-- **A text that is read as a record begins and ends with brackets of one kind**, if there is no
white space at its ends. -/
theorem RecordKind.ends_of_ofText {σ ρ : Type} {k : RecordKind σ ρ}
    (hk : ∀ f ∈ k.fields, f.Wholly) {text : String} {a : ρ} (h : k.decoder.ofText text = .ok a)
    (hfirst : ∀ c, text.toList.head? = some c → isGap c = false)
    (hlast : ∀ c, text.toList.getLast? = some c → isGap c = false) :
    ∃ e ∈ ends, text.toList.head? = some e.1 ∧ text.toList.getLast? = some e.2 := by
  obtain ⟨hread, hrest⟩ := Decoder.of_ofText_eq_ok h
  have hrun : run .value [] (tokens text.toList) = ((Raw.ofText text).1, []) :=
    Prod.ext rfl hrest
  obtain ⟨p, hp, hhead, hend⟩ :=
    exists_brackets_of_run hrun (wholly_decoder hk hread) (exists_of_decoder_ok hread)
  obtain ⟨e, he, hopen, hclose⟩ := exists_of_mem_brackets hp
  refine ⟨e, he, ?_, ?_⟩
  · obtain ⟨gaps, rest, htext, hgaps⟩ := exists_of_head?_tokens hhead hopen
    cases gaps with
    | nil => rw [htext]; rfl
    | cons c gaps =>
      have hc : isGap c = false := hfirst c (by rw [htext]; rfl)
      rw [hgaps c List.mem_cons_self] at hc
      cases hc
  · obtain ⟨before, gaps, htext, hgaps⟩ := exists_of_getLast?_tokens hend hclose
    cases hgap : gaps.getLast? with
    | none => rw [htext, List.getLast?_eq_none_iff.1 hgap, List.getLast?_concat]
    | some c =>
      have hc : isGap c = false := by
        refine hlast c ?_
        rw [htext, List.getLast?_append, List.getLast?_cons, hgap]
        rfl
      rw [hgaps c (List.mem_of_getLast? hgap)] at hc
      cases hc

end Widgetry.Json
