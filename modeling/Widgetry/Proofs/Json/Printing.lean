import Widgetry.Proofs.Json.Text
import Widgetry.Proofs.Json.Value

/-!
Printed values are read back. Compact or indented, the text of a value is read as the tree of the
very value, and nothing is left of it (`ofText_compact`, `ofText_pretty`).

The way goes over tokens. A value has tokens of its own (`Value.tokens`); either form of printing
writes these and nothing but white space between them, and the machine that reads trees makes of
them what the value is. Each half is an induction on the value, with the text, the tokens and the
frames behind it kept general.
-/

namespace Widgetry.Json

/-! ## 1. Scanning one token -/

/-- Whether a token is not broken off. -/
def Token.isWhole : Token → Bool
  | .broken .. | .brokenText .. => false
  | _ => true

/-- White space is passed over. -/
theorem tokens_gap {c : Char} (h : isGap c = true) (cs : List Char) :
    tokens (c :: cs) = tokens cs := by
  rw [tokens, if_pos h]

/-- A token that is scanned comes first, then those of the rest. -/
theorem tokens_of_scanToken {c : Char} {cs rest : List Char} {t : Token} (hgap : isGap c = false)
    (hscan : scanToken c cs = (t, rest)) (hwhole : t.isWhole = true) :
    tokens (c :: cs) = t :: tokens rest := by
  rw [tokens, if_neg (by simp [hgap])]
  split
  · rename_i heq
    rw [hscan] at heq
    obtain ⟨rfl, -⟩ := Prod.mk.inj heq
    simp [Token.isWhole] at hwhole
  · rename_i heq
    rw [hscan] at heq
    obtain ⟨rfl, -⟩ := Prod.mk.inj heq
    simp [Token.isWhole] at hwhole
  · rename_i heq
    rw [hscan] at heq
    obtain ⟨rfl, rfl⟩ := Prod.mk.inj heq
    rfl

theorem tokens_openArray (cs : List Char) : tokens ('[' :: cs) = .openArray :: tokens cs :=
  tokens_of_scanToken (by decide) rfl rfl

theorem tokens_closeArray (cs : List Char) : tokens (']' :: cs) = .closeArray :: tokens cs :=
  tokens_of_scanToken (by decide) rfl rfl

theorem tokens_openObject (cs : List Char) : tokens ('{' :: cs) = .openObject :: tokens cs :=
  tokens_of_scanToken (by decide) rfl rfl

theorem tokens_closeObject (cs : List Char) : tokens ('}' :: cs) = .closeObject :: tokens cs :=
  tokens_of_scanToken (by decide) rfl rfl

theorem tokens_comma (cs : List Char) : tokens (',' :: cs) = .comma :: tokens cs :=
  tokens_of_scanToken (by decide) rfl rfl

theorem tokens_colon (cs : List Char) : tokens (':' :: cs) = .colon :: tokens cs :=
  tokens_of_scanToken (by decide) rfl rfl

theorem tokens_null (cs : List Char) :
    tokens ('n' :: 'u' :: 'l' :: 'l' :: cs) = .null :: tokens cs :=
  tokens_of_scanToken (by decide) rfl rfl

theorem tokens_true (cs : List Char) :
    tokens ('t' :: 'r' :: 'u' :: 'e' :: cs) = .bool true :: tokens cs :=
  tokens_of_scanToken (by decide) rfl rfl

theorem tokens_false (cs : List Char) :
    tokens ('f' :: 'a' :: 'l' :: 's' :: 'e' :: cs) = .bool false :: tokens cs :=
  tokens_of_scanToken (by decide) rfl rfl

/-- A printed text is one token. -/
theorem tokens_printText (s : String) (cs : List Char) :
    tokens (printText s ++ cs) = .text (.ok s) :: tokens cs := by
  obtain ⟨htoken, hrest⟩ := scanText_spelled spells_escaped s cs
  have hchars : printText s ++ cs = '"' :: (s.toList.flatMap escaped ++ '"' :: cs) := by
    simp [printText]
  have hscan : scanToken '"' (s.toList.flatMap escaped ++ '"' :: cs) = (.text (.ok s), cs) :=
    Prod.ext htoken hrest
  rw [hchars]
  exact tokens_of_scanToken (by decide) hscan rfl

/-- Indentation is no token. -/
theorem tokens_newline (level : Nat) (cs : List Char) :
    tokens (newline level ++ cs) = tokens cs := by
  have hspaces (n : Nat) : tokens (List.replicate n ' ' ++ cs) = tokens cs := by
    induction n with
    | zero => rfl
    | succ n ih => rw [List.replicate_succ, List.cons_append, tokens_gap (by decide), ih]
  rw [newline, List.cons_append, tokens_gap (by decide), hspaces]

/-! ## 2. Numbers -/

/-- Whether a character could go on with a number that stands before it. -/
def goesOn (c : Char) : Bool :=
  c.isDigit || c == '.' || c == 'e' || c == 'E'

/-- Nothing in front of a text could be a part of a number that stands before it. -/
def EndsNumber (cs : List Char) : Prop :=
  ∀ c, cs.head? = some c → goesOn c = false

/-- A number whose text is read back. -/
def Number.Legible (n : Number) : Prop :=
  ∀ cs, EndsNumber cs → tokens (n.text.toList ++ cs) = .number (.ok n) :: tokens cs

/-- A number that stands last is not cut off. -/
theorem endsNumber_nil : EndsNumber [] := fun _ h => nomatch h

theorem endsNumber_cons {c : Char} (h : goesOn c = false) (cs : List Char) :
    EndsNumber (c :: cs) := by
  rintro d hd
  obtain rfl := Option.some.inj hd
  exact h

/-- A line break ends a number. -/
theorem endsNumber_newline (level : Nat) (cs : List Char) : EndsNumber (newline level ++ cs) :=
  endsNumber_cons (by decide) _

/-- Whether a value that is a number is read back. -/
def Value.LegibleHere : Value → Prop
  | .number n => n.Legible
  | _ => True

/-- Whether all numbers in a value are read back. -/
def Value.Legible (v : Value) : Prop := v.Everywhere LegibleHere

/-! ## 3. Lists with commas -/

/-- Lists one after another with a separator between them. -/
def joined {α β : Type} (separator : β) (f : α → List β) : List α → List β
  | [] => []
  | [a] => f a
  | a :: as => f a ++ separator :: joined separator f as

/-- Two items are joined by one separator. -/
theorem joined_cons_cons {α β : Type} (separator : β) (f : α → List β) (a b : α) (as : List α) :
    joined separator f (a :: b :: as) = f a ++ separator :: joined separator f (b :: as) := rfl

/-- Pieces of text with commas between them have the tokens of the pieces with commas between them.
-/
theorem tokens_joined {α : Type} {text : α → List Char} {toks : α → List Token} {as : List α}
    (h : ∀ a ∈ as, ∀ cs, EndsNumber cs → tokens (text a ++ cs) = toks a ++ tokens cs)
    {cs : List Char} (hcs : EndsNumber cs) :
    tokens (joined ',' text as ++ cs) = joined .comma toks as ++ tokens cs := by
  induction as with
  | nil => rfl
  | cons a as ih =>
    obtain ⟨ha, has⟩ := List.forall_mem_cons.1 h
    cases as with
    | nil => exact ha cs hcs
    | cons b bs =>
      rw [joined_cons_cons, joined_cons_cons, List.append_assoc, List.cons_append,
        ha _ (endsNumber_cons (by decide) _), tokens_comma, ih has, List.append_assoc,
        List.cons_append]

/-- Items are printed one by one with commas between them. -/
theorem printItems_eq (items : List Value) : printItems items = joined ',' Value.print items := by
  induction items with
  | nil => rfl
  | cons v vs ih =>
    cases vs with
    | nil => rfl
    | cons w ws =>
      rw [printItems, joined_cons_cons, ih]
      simp

/-- Members are printed one by one with commas between them. -/
theorem printMembers_eq (members : List (String × Value)) :
    printMembers members = joined ',' (fun m => printText m.1 ++ ':' :: m.2.print) members := by
  induction members with
  | nil => rfl
  | cons m ms ih =>
    cases ms with
    | nil => rfl
    | cons m' ms' =>
      rw [printMembers, joined_cons_cons, ih]
      simp

/-- Indented, every item comes on a line of its own. -/
theorem printItemsIndented_eq (level : Nat) (items : List Value) :
    printItemsIndented level items
      = joined ',' (fun v => newline level ++ v.printIndented level) items := by
  induction items with
  | nil => rfl
  | cons v vs ih =>
    cases vs with
    | nil => rfl
    | cons w ws =>
      rw [printItemsIndented, joined_cons_cons, ih]
      simp

theorem printMembersIndented_eq (level : Nat) (members : List (String × Value)) :
    printMembersIndented level members
      = joined ',' (fun m =>
          newline level ++ (printText m.1 ++ ':' :: ' ' :: m.2.printIndented level)) members := by
  induction members with
  | nil => rfl
  | cons m ms ih =>
    cases ms with
    | nil => rw [printMembersIndented, joined, List.append_assoc]
    | cons m' ms' => rw [printMembersIndented, joined_cons_cons, ih] <;> simp

/-! ## 4. The tokens of a value -/

mutual

/-- The tokens of a value. -/
def Value.tokens : Value → List Token
  | .null => [.null]
  | .bool b => [.bool b]
  | .number n => [.number (.ok n)]
  | .text s => [.text (.ok s)]
  | .array items => .openArray :: tokensOfItems items ++ [.closeArray]
  | .object members => .openObject :: tokensOfMembers members ++ [.closeObject]

/-- The tokens of items, with commas between them. -/
def tokensOfItems : List Value → List Token
  | [] => []
  | [v] => v.tokens
  | v :: vs => v.tokens ++ .comma :: tokensOfItems vs

/-- The tokens of members, with commas between them. -/
def tokensOfMembers : List (String × Value) → List Token
  | [] => []
  | [(k, v)] => .text (.ok k) :: .colon :: v.tokens
  | (k, v) :: ms => .text (.ok k) :: .colon :: v.tokens ++ .comma :: tokensOfMembers ms

end

/-- The tokens of a member. -/
def memberTokens (m : String × Value) : List Token :=
  .text (.ok m.1) :: .colon :: m.2.tokens

/-- The tokens of items are those of each, with commas between them. -/
theorem tokensOfItems_eq (items : List Value) :
    tokensOfItems items = joined .comma Value.tokens items := by
  induction items with
  | nil => rfl
  | cons v vs ih =>
    cases vs with
    | nil => rfl
    | cons w ws =>
      rw [tokensOfItems, joined_cons_cons, ih]
      simp

/-- The tokens of members are those of each, with commas between them. -/
theorem tokensOfMembers_eq (members : List (String × Value)) :
    tokensOfMembers members = joined .comma memberTokens members := by
  induction members with
  | nil => rfl
  | cons m ms ih =>
    cases ms with
    | nil => rfl
    | cons m' ms' => rw [tokensOfMembers, joined_cons_cons, ih] <;> simp [memberTokens]

/-- The compact text of a value has the value's tokens. -/
theorem tokens_print {v : Value} (hv : v.Legible) {cs : List Char} (hcs : EndsNumber cs) :
    Json.tokens (v.print ++ cs) = v.tokens ++ Json.tokens cs := by
  induction v using Value.induction generalizing cs with
  | null => exact tokens_null cs
  | bool b =>
    cases b with
    | true => exact tokens_true cs
    | false => exact tokens_false cs
  | number n => exact hv.here cs hcs
  | text s => exact tokens_printText s cs
  | array items ih =>
    replace hv := ((Value.everywhere_array items).1 hv).2
    -- behind an item comes a comma or the bracket, either of which ends a number
    have hitems := tokens_joined (fun v h cs hcs => ih v h (hv v h) hcs)
      (endsNumber_cons (c := ']') (by decide) cs)
    rw [Value.print, Value.tokens, printItems_eq, tokensOfItems_eq]
    simp [tokens_openArray, hitems, tokens_closeArray]
  | object members ih =>
    replace hv := ((Value.everywhere_object members).1 hv).2
    have hmember (m : String × Value) (h : m ∈ members) (cs : List Char) (hcs : EndsNumber cs) :
        Json.tokens ((printText m.1 ++ ':' :: m.2.print) ++ cs)
          = memberTokens m ++ Json.tokens cs := by
      rw [List.append_assoc, tokens_printText, List.cons_append, tokens_colon, ih m h (hv m h) hcs]
      rfl
    have hmembers := tokens_joined hmember (endsNumber_cons (c := '}') (by decide) cs)
    rw [Value.print, Value.tokens, printMembers_eq, tokensOfMembers_eq]
    simp [tokens_openObject, hmembers, tokens_closeObject]

/-- So has the indented text. -/
theorem tokens_printIndented {v : Value} (hv : v.Legible) (level : Nat) {cs : List Char}
    (hcs : EndsNumber cs) :
    Json.tokens (v.printIndented level ++ cs) = v.tokens ++ Json.tokens cs := by
  induction v using Value.induction generalizing level cs with
  | null => exact tokens_print hv hcs
  | bool b => exact tokens_print hv hcs
  | number n => exact tokens_print hv hcs
  | text s => exact tokens_print hv hcs
  | array items ih =>
    replace hv := ((Value.everywhere_array items).1 hv).2
    -- an empty array has no line break in it, so it is not a case of the others
    cases items with
    | nil =>
      simp [Value.printIndented, tokens_openArray, tokens_closeArray, Value.tokens, tokensOfItems]
    | cons v vs =>
      have hitem (w : Value) (h : w ∈ v :: vs) (cs : List Char) (hcs : EndsNumber cs) :
          Json.tokens ((newline (level + 1) ++ w.printIndented (level + 1)) ++ cs)
            = w.tokens ++ Json.tokens cs := by
        rw [List.append_assoc, tokens_newline, ih w h (hv w h) (level + 1) hcs]
      have hitems := tokens_joined hitem (endsNumber_newline level (']' :: cs))
      rw [Value.printIndented, Value.tokens, printItemsIndented_eq, tokensOfItems_eq]
      simp [tokens_openArray, hitems, tokens_newline, tokens_closeArray]
  | object members ih =>
    replace hv := ((Value.everywhere_object members).1 hv).2
    cases members with
    | nil =>
      simp [Value.printIndented, tokens_openObject, tokens_closeObject, Value.tokens,
        tokensOfMembers]
    | cons m ms =>
      have hmember (m' : String × Value) (h : m' ∈ m :: ms) (cs : List Char)
          (hcs : EndsNumber cs) :
          Json.tokens ((newline (level + 1) ++ (printText m'.1
              ++ ':' :: ' ' :: m'.2.printIndented (level + 1))) ++ cs)
            = memberTokens m' ++ Json.tokens cs := by
        rw [List.append_assoc, tokens_newline, List.append_assoc, tokens_printText,
          List.cons_append, tokens_colon, List.cons_append, tokens_gap (by decide),
          ih m' h (hv m' h) (level + 1) hcs]
        rfl
      have hmembers := tokens_joined hmember (endsNumber_newline level ('}' :: cs))
      rw [Value.printIndented, Value.tokens, printMembersIndented_eq, tokensOfMembers_eq]
      simp [tokens_openObject, hmembers, tokens_newline, tokens_closeObject]

/-! ## 5. The tree of a value's tokens -/

/-- Goes on with the tokens behind a step. -/
def Step.go : Step → List Token → Raw × List Token
  | .more st stack, ts => run st stack ts
  | .done v, ts => (v, ts)
  | .halted v, _ => (v, [])

/-- The first token is one step. -/
theorem run_cons (st : State) (stack : List Frame) (t : Token) (ts : List Token) :
    run st stack (t :: ts) = (st.step stack t).go ts := by
  rw [run]
  cases st.step stack t <;> rfl

/-- A state that takes items behind those already done: a value is read there as the next one. -/
def State.TakesItem (st : State) (done : List Raw) : Prop :=
  ∀ (v : Value) (stack : List Frame) (ts : List Token),
    run st stack (v.tokens ++ ts) = run .value (.array done :: stack) (v.tokens ++ ts)

/-- Where a state does with the first token of each value what is done where a value must come, it
takes items. -/
theorem takesItem_of_step {st : State} {done : List Raw}
    (h : ∀ stack t, t ≠ .closeArray → st.step stack t = stepValue (.array done :: stack) t) :
    st.TakesItem done := by
  intro v stack ts
  have hfirst : ∃ t rest, v.tokens = t :: rest ∧ t ≠ .closeArray := by
    cases v <;> exact ⟨_, _, rfl, nofun⟩
  obtain ⟨t, rest, heq, ht⟩ := hfirst
  rw [heq, List.cons_append, run_cons, run_cons, h stack t ht]
  rfl

/-- An item may come first. -/
theorem takesItem_firstItem : State.firstItem.TakesItem [] :=
  takesItem_of_step fun stack t ht => by cases t <;> first | rfl | exact absurd rfl ht

/-- An item may come behind a comma. -/
theorem takesItem_nextItem (done : List Raw) : (State.nextItem done).TakesItem done :=
  takesItem_of_step fun stack t ht => by cases t <;> first | rfl | exact absurd rfl ht

/-- Items with commas between them begin with a value. -/
theorem State.TakesItem.run_joined {st : State} {done : List Raw} (h : st.TakesItem done)
    (v : Value) (vs : List Value) (stack : List Frame) (ts : List Token) :
    run st stack (joined .comma Value.tokens (v :: vs) ++ ts)
      = run .value (.array done :: stack) (joined .comma Value.tokens (v :: vs) ++ ts) := by
  cases vs with
  | nil => exact h ..
  | cons w ws =>
    rw [joined_cons_cons, List.append_assoc]
    exact h ..

/-- Where an object begins, its members are read behind none. -/
theorem run_firstKey_joined (m : String × Value) (ms : List (String × Value)) (stack : List Frame)
    (ts : List Token) :
    run .firstKey stack (joined .comma memberTokens (m :: ms) ++ ts)
      = run (.nextKey []) stack (joined .comma memberTokens (m :: ms) ++ ts) := by
  cases ms with
  | nil =>
    rw [joined, memberTokens, List.cons_append, run_cons, run_cons]
    rfl
  | cons m' ms' =>
    rw [joined_cons_cons, memberTokens, List.append_assoc, List.cons_append, run_cons, run_cons]
    rfl

/-- Reading the tokens of a value makes its tree, and hands it to the frame around. -/
def Value.Runs (v : Value) : Prop :=
  ∀ stack ts, run .value stack (v.tokens ++ ts) = (finish v.raw stack).go ts

/-- Items that are read one by one are read behind those already done, and close their array. -/
theorem run_items (v : Value) (vs : List Value) (h : ∀ w ∈ v :: vs, w.Runs) (done : List Raw)
    (stack : List Frame) (ts : List Token) :
    run .value (.array done :: stack) (joined .comma Value.tokens (v :: vs) ++ .closeArray :: ts)
      = (finish (.array (Items.prependReverse done (rawItems (v :: vs)))) stack).go ts := by
  induction vs generalizing v done with
  | nil =>
    rw [joined, h v List.mem_cons_self]
    exact run_cons ..
  | cons w ws ih =>
    obtain ⟨hv, hvs⟩ := List.forall_mem_cons.1 h
    rw [joined_cons_cons, List.append_assoc, hv, List.cons_append, finish, Step.go, run_cons,
      State.step, Step.go, (takesItem_nextItem _).run_joined]
    exact ih w hvs (v.raw :: done)

/-- Where another key must come, a text is taken as one. -/
theorem step_nextKey_text (done : List RawMember) (stack : List Frame) (key : Except Fault String) :
    (State.nextKey done).step stack (.text key) = .more (.colon done key) stack := rfl

/-- Members that are read one by one are read behind those already done, and close their object. -/
theorem run_members (m : String × Value) (ms : List (String × Value))
    (h : ∀ m' ∈ m :: ms, m'.2.Runs) (done : List RawMember) (stack : List Frame)
    (ts : List Token) :
    run (.nextKey done) stack (joined .comma memberTokens (m :: ms) ++ .closeObject :: ts)
      = (finish (.object (Members.prependReverse done (rawMembers (m :: ms)))) stack).go ts := by
  induction ms generalizing m done with
  | nil =>
    rw [joined, memberTokens, List.cons_append, List.cons_append, run_cons, step_nextKey_text,
      Step.go, run_cons, State.step, Step.go, h m List.mem_cons_self]
    exact run_cons ..
  | cons m' ms' ih =>
    obtain ⟨hm, hms⟩ := List.forall_mem_cons.1 h
    rw [joined_cons_cons, memberTokens, List.append_assoc, List.cons_append, List.cons_append,
      run_cons, step_nextKey_text, Step.go, run_cons, State.step, Step.go, hm, List.cons_append,
      finish, Step.go, run_cons]
    exact ih m' hms ((.ok m.1, m.2.raw) :: done)

/-- The tokens of every value build its tree, wherever a value may stand. The induction is on the
value. -/
theorem Value.runs (v : Value) : v.Runs := by
  induction v using Value.induction with
  | null => exact fun _ _ => run_cons ..
  | bool b => exact fun _ _ => run_cons ..
  | number n => exact fun _ _ => run_cons ..
  | text s => exact fun _ _ => run_cons ..
  | array items ih =>
    intro stack ts
    rw [Value.tokens, tokensOfItems_eq, List.append_assoc, List.cons_append, run_cons]
    cases items with
    | nil => exact run_cons ..
    | cons v vs => exact (takesItem_firstItem.run_joined ..).trans (run_items v vs ih [] stack ts)
  | object members ih =>
    intro stack ts
    rw [Value.tokens, tokensOfMembers_eq, List.append_assoc, List.cons_append, run_cons]
    cases members with
    | nil => exact run_cons ..
    | cons m ms => exact (run_firstKey_joined ..).trans (run_members m ms ih [] stack ts)

/-! ## 6. Texts of values -/

/-- A text that has the tokens of a value has its tree, with nothing behind it. -/
theorem Raw.ofText_eq {text : String} {v : Value}
    (h : tokens text.toList = v.tokens) : Raw.ofText text = (v.raw, []) := by
  have hrun := v.runs [] []
  rw [List.append_nil] at hrun
  rw [Raw.ofText, h, hrun]
  rfl

/-- The compact text of a value is read as the value's tree, to its end. -/
theorem ofText_compact {v : Value} (hv : v.Legible) : Raw.ofText v.compact = (v.raw, []) := by
  apply Raw.ofText_eq
  rw [Value.compact, String.toList_ofList]
  simpa [Json.tokens] using tokens_print hv endsNumber_nil

/-- The indented text of a value is read as the value's tree, to its end. -/
theorem ofText_pretty {v : Value} (hv : v.Legible) : Raw.ofText v.pretty = (v.raw, []) := by
  apply Raw.ofText_eq
  rw [Value.pretty, String.toList_ofList]
  simpa [Json.tokens] using tokens_printIndented hv 0 endsNumber_nil

end Widgetry.Json
