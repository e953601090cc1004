import Widgetry.Proofs.Component.Quotation
import Widgetry.Proofs.Component.Word

/-!
Nesting of brackets, tags and elements in code whose literals have been emptied. A reader keeps what
is open, innermost first: a bracket until the bracket that matches it, a tag until its end, an
element until its closing tag. Outside of literals the characters `<` and `>` belong to tags and to
arrows only, `input` has no content and must end in `/>`, and every other tag must not.

A step changes what is open at its inner end only (`Change`). So a run on a piece of code does the
same above whatever is open around the piece (`run_under`), and a reader of brackets alone, which
skips tags, accepts what this reader accepts (`bracketsMatch_of_run`).
-/

namespace Widgetry.Component

/-! ## 1. Brackets -/

/-- Whether a character is an opening bracket. -/
def isOpener (c : Char) : Bool :=
  c == '(' || c == '[' || c == '{'

/-- The opening bracket of a closing one. -/
def opener? (c : Char) : Option Char :=
  if c == ')' then some '(' else if c == ']' then some '[' else if c == '}' then some '{'
  else none

/-- Whether every bracket is closed by its own kind in properly nested order, above brackets that
are open already; in the end nothing is open. -/
def bracketsMatch : List Char → List Char → Bool
  | opened, [] => opened.isEmpty
  | opened, c :: cs =>
    if isOpener c then bracketsMatch (c :: opened) cs
    else match opener? c with
      | none => bracketsMatch opened cs
      | some o =>
        match opened with
        | [] => false
        | b :: outer => b == o && bracketsMatch outer cs

/-! ## 2. Places in code -/

/-- What is open at a place in code: a bracket, a tag that has not ended, or an element. -/
inductive Opening where
  | bracket (c : Char)
  | tag (name : List Char)
  | element (name : List Char)
  deriving Repr, DecidableEq

/-- The only tag without content. -/
def inputTag : List Char := ['i', 'n', 'p', 'u', 't']

/-- What one character does to what is open. -/
inductive Change where
  | keep
  | push (o : Opening)
  | pop (o : Opening)
  | enter
  | finish
  deriving Repr, DecidableEq

/-- A change is made at the inner end: `pop` closes exactly what it names, `enter` goes from a tag
to its content, and `finish` ends a tag without content. -/
def Change.apply : Change → List Opening → Option (List Opening)
  | keep, opened => some opened
  | push o, opened => some (o :: opened)
  | pop o, o' :: outer => if o = o' then some outer else none
  | enter, .tag name :: outer => if name = inputTag then none else some (.element name :: outer)
  | finish, .tag name :: outer => if name = inputTag then some outer else none
  | _, _ => none

/-- What the last characters have begun. -/
inductive Pending where
  | nothing
  | equals
  | slash
  | angle
  | opening (name : List Char)
  | closing (name : List Char)
  deriving Repr, DecidableEq

/-- What a character that is not part of a tag's name does. -/
def Pending.punctuation (p : Pending) (c : Char) : Pending × Change :=
  if isOpener c then (.nothing, .push (.bracket c))
  else match opener? c with
    | some o => (.nothing, .pop (.bracket o))
    | none =>
      if c == '<' then (.angle, .keep)
      else if c == '=' then (.equals, .keep)
      else if c == '/' then (.slash, .keep)
      else if c == '>' then
        match p with
        | .equals => (.nothing, .keep)
        | .slash => (.nothing, .finish)
        | _ => (.nothing, .enter)
      else (.nothing, .keep)

/-- What a character does after what was begun. -/
def Pending.action : Pending → Char → Option (Pending × Change)
  | .angle, c =>
    if c == '/' then some (.closing [], .keep)
    else if c.isAlphanum then some (.opening [c], .keep)
    else none
  | .opening name, c =>
    if c.isAlphanum then some (.opening (name ++ [c]), .keep)
    else if c == ' ' || c == '\n' then some (.nothing, .push (.tag name))
    else if c == '>' && name != inputTag then some (.nothing, .push (.element name))
    else none
  | .closing name, c =>
    if c.isAlphanum then some (.closing (name ++ [c]), .keep)
    else if c == '>' then some (.nothing, .pop (.element name))
    else none
  | p, c => some (p.punctuation c)

/-- A place in code: what was begun last, and what is open, innermost first. -/
structure Nesting where
  pending : Pending
  opened : List Opening
  deriving Repr, DecidableEq

namespace Nesting

/-- A place where nothing was begun. -/
def inside (opened : List Opening) : Nesting := ⟨.nothing, opened⟩

/-- The place after one more character. -/
def next (s : Nesting) (c : Char) : Option Nesting :=
  match s.pending.action c with
  | none => none
  | some (pending, change) => (change.apply s.opened).map fun opened => ⟨pending, opened⟩

/-- The place after code, unless something is closed that is not open. -/
def run : Nesting → List Char → Option Nesting
  | s, [] => some s
  | s, c :: cs => (s.next c).bind fun t => t.run cs

/-- The same place in code around which more is open. -/
def under (s : Nesting) (outer : List Opening) : Nesting :=
  ⟨s.pending, s.opened ++ outer⟩

end Nesting

/-! ## 3. What is open around a piece of code -/

theorem Change.apply_append {change : Change} {opened opened' : List Opening}
    (h : change.apply opened = some opened') (outer : List Opening) :
    change.apply (opened ++ outer) = some (opened' ++ outer) := by
  cases change with
  | keep =>
    obtain rfl : opened = opened' := by simpa [apply] using h
    rfl
  | push o =>
    obtain rfl : o :: opened = opened' := by simpa [apply] using h
    rfl
  | pop o =>
    cases opened with
    | nil => simp [apply] at h
    | cons o' opened =>
      obtain ⟨rfl, rfl⟩ : o = o' ∧ opened = opened' := by simpa [apply] using h
      simp [apply]
  | enter =>
    rcases opened with _ | ⟨_ | name | _, opened⟩ <;> simp only [apply, reduceCtorEq] at h
    split at h
    · simp at h
    · rename_i hname
      obtain rfl : .element name :: opened = opened' := by simpa using h
      simp [apply, hname]
  | finish =>
    rcases opened with _ | ⟨_ | name | _, opened⟩ <;> simp only [apply, reduceCtorEq] at h
    split at h
    · rename_i hname
      obtain rfl : opened = opened' := by simpa using h
      simp [apply, hname]
    · simp at h

namespace Nesting

/-- A step is an action on what was begun and a change of what is open. -/
theorem next_eq_some_iff {s t : Nesting} {c : Char} :
    s.next c = some t ↔ ∃ change, s.pending.action c = some (t.pending, change)
      ∧ change.apply s.opened = some t.opened := by
  rw [next]
  split
  · rename_i h
    simp [h]
  · rename_i pending change h
    rw [h, Option.map_eq_some_iff]
    constructor
    · rintro ⟨opened, hopened, rfl⟩
      exact ⟨change, rfl, hopened⟩
    · rintro ⟨change', hchange, hopened⟩
      obtain ⟨rfl, rfl⟩ : pending = t.pending ∧ change = change' := by simpa using hchange
      exact ⟨t.opened, hopened, rfl⟩

theorem run_append (s : Nesting) (a b : List Char) :
    s.run (a ++ b) = (s.run a).bind fun t => t.run b := by
  induction a generalizing s with
  | nil => rfl
  | cons c cs ih =>
    simp only [List.cons_append, run]
    cases s.next c with
    | none => rfl
    | some t => exact ih t

theorem next_under {s t : Nesting} {c : Char} (h : s.next c = some t) (outer : List Opening) :
    (s.under outer).next c = some (t.under outer) := by
  obtain ⟨change, haction, hopened⟩ := next_eq_some_iff.1 h
  exact next_eq_some_iff.2 ⟨change, haction, change.apply_append hopened outer⟩

/-- A run does not look at what is open around the piece that it reads. -/
theorem run_under {s t : Nesting} {cs : List Char} (h : s.run cs = some t)
    (outer : List Opening) : (s.under outer).run cs = some (t.under outer) := by
  induction cs generalizing s with
  | nil =>
    obtain rfl : s = t := by simpa [run] using h
    rfl
  | cons c cs ih =>
    rw [run] at h ⊢
    obtain ⟨u, hu, hrest⟩ := Option.bind_eq_some_iff.1 h
    rw [next_under hu outer]
    exact ih hrest

/-! ## 4. Brackets alone -/

/-- The brackets among what is open. -/
def bracketsIn (opened : List Opening) : List Char :=
  opened.filterMap fun
    | .bracket c => some c
    | _ => none

/-- Changes that leave the brackets alone. -/
def isNeutral : Change → Bool
  | .push (.bracket _) => false
  | .pop (.bracket _) => false
  | _ => true

theorem bracketsIn_eq_of_isNeutral {change : Change} (hneutral : isNeutral change = true)
    {opened opened' : List Opening} (h : change.apply opened = some opened') :
    bracketsIn opened = bracketsIn opened' := by
  cases change with
  | keep =>
    obtain rfl : opened = opened' := by simpa [Change.apply] using h
    rfl
  | push o =>
    obtain rfl : o :: opened = opened' := by simpa [Change.apply] using h
    cases o with
    | bracket c => simp [isNeutral] at hneutral
    | tag name => rfl
    | element name => rfl
  | pop o =>
    cases opened with
    | nil => simp [Change.apply] at h
    | cons o' opened =>
      obtain ⟨rfl, rfl⟩ : o = o' ∧ opened = opened' := by simpa [Change.apply] using h
      cases o with
      | bracket c => simp [isNeutral] at hneutral
      | tag name => rfl
      | element name => rfl
  | enter =>
    rcases opened with _ | ⟨_ | name | _, opened⟩ <;> simp only [Change.apply, reduceCtorEq] at h
    split at h
    · simp at h
    · obtain rfl : .element name :: opened = opened' := by simpa using h
      rfl
  | finish =>
    rcases opened with _ | ⟨_ | name | _, opened⟩ <;> simp only [Change.apply, reduceCtorEq] at h
    split at h
    · obtain rfl : opened = opened' := by simpa using h
      rfl
    · simp at h

/-- What a character does to the brackets: an opening one is pushed, a closing one pops its own
kind, and every other character leaves them alone. -/
def BracketAction (c : Char) (change : Change) : Prop :=
  (isOpener c = true ∧ change = .push (.bracket c))
    ∨ (∃ o, isOpener c = false ∧ opener? c = some o ∧ change = .pop (.bracket o))
    ∨ (isOpener c = false ∧ opener? c = none ∧ isNeutral change = true)

theorem bracketAction_punctuation (p : Pending) (c : Char) :
    BracketAction c (p.punctuation c).2 := by
  unfold Pending.punctuation
  split
  · rename_i hc
    exact .inl ⟨hc, rfl⟩
  · rename_i hc
    rw [Bool.not_eq_true] at hc
    split
    · rename_i o ho
      exact .inr (.inl ⟨o, hc, ho, rfl⟩)
    · rename_i ho
      refine .inr (.inr ⟨hc, ho, ?_⟩)
      split
      · rfl
      split
      · rfl
      split
      · rfl
      split
      · cases p <;> rfl
      · rfl

/-- The characters that names of tags and their ends are made of are no brackets. -/
theorem bracketAction_tag {c : Char} {change : Change}
    (hc : c.isAlphanum = true ∨ c ∈ ['/', ' ', '\n', '>']) (hneutral : isNeutral change = true) :
    BracketAction c change := by
  have hquiet : isOpener c = false ∧ opener? c = none := by
    rcases hc with hc | hc
    · exact of_ascii (p := fun d => d.isAlphanum = true → isOpener d = false ∧ opener? d = none)
        (by decide) (toNat_lt_of_isAlphanum hc) hc
    · simp only [List.mem_cons, List.not_mem_nil, or_false] at hc
      rcases hc with rfl | rfl | rfl | rfl <;> decide
  exact .inr (.inr ⟨hquiet.1, hquiet.2, hneutral⟩)

theorem bracketAction_of_action {p q : Pending} {c : Char} {change : Change}
    (h : p.action c = some (q, change)) : BracketAction c change := by
  -- inside a tag only the characters of tags are accepted; everywhere else the character is
  -- punctuation
  cases p with
  | angle =>
    simp only [Pending.action] at h
    split at h
    · rename_i hc
      obtain ⟨-, rfl⟩ : .closing [] = q ∧ .keep = change := by simpa using h
      exact bracketAction_tag (.inr (by simp [beq_iff_eq.1 hc])) rfl
    split at h
    · rename_i hc
      obtain ⟨-, rfl⟩ : .opening [c] = q ∧ .keep = change := by simpa using h
      exact bracketAction_tag (.inl hc) rfl
    · simp at h
  | opening name =>
    simp only [Pending.action] at h
    split at h
    · rename_i hc
      obtain ⟨-, rfl⟩ : .opening (name ++ [c]) = q ∧ .keep = change := by simpa using h
      exact bracketAction_tag (.inl hc) rfl
    split at h
    · rename_i hc
      obtain ⟨-, rfl⟩ : .nothing = q ∧ .push (.tag name) = change := by simpa using h
      rw [Bool.or_eq_true, beq_iff_eq, beq_iff_eq] at hc
      exact bracketAction_tag (.inr (by rcases hc with rfl | rfl <;> decide)) rfl
    split at h
    · rename_i hc
      obtain ⟨-, rfl⟩ : .nothing = q ∧ .push (.element name) = change := by simpa using h
      rw [Bool.and_eq_true, beq_iff_eq] at hc
      exact bracketAction_tag (.inr (by simp [hc.1])) rfl
    · simp at h
  | closing name =>
    simp only [Pending.action] at h
    split at h
    · rename_i hc
      obtain ⟨-, rfl⟩ : .closing (name ++ [c]) = q ∧ .keep = change := by simpa using h
      exact bracketAction_tag (.inl hc) rfl
    split at h
    · rename_i hc
      obtain ⟨-, rfl⟩ : .nothing = q ∧ .pop (.element name) = change := by simpa using h
      exact bracketAction_tag (.inr (by simp [beq_iff_eq.1 hc])) rfl
    · simp at h
  | nothing | equals | slash =>
    have hchange : (Pending.punctuation _ c).2 = change := congrArg Prod.snd (Option.some.inj h)
    exact hchange ▸ bracketAction_punctuation _ c

/-- What a change does to the brackets is what the character that causes it does to them. -/
theorem bracketsMatch_of_action {p q : Pending} {c : Char} {change : Change}
    (haction : p.action c = some (q, change)) {opened opened' : List Opening}
    (h : change.apply opened = some opened') (cs : List Char) :
    bracketsMatch (bracketsIn opened) (c :: cs) = bracketsMatch (bracketsIn opened') cs := by
  rw [bracketsMatch]
  rcases bracketAction_of_action haction with ⟨hc, rfl⟩ | ⟨o, hc, ho, rfl⟩ | ⟨hc, ho, hneutral⟩
  · obtain rfl : .bracket c :: opened = opened' := by simpa [Change.apply] using h
    rw [if_pos hc]
    rfl
  · cases opened with
    | nil => simp [Change.apply] at h
    | cons o' opened =>
      obtain ⟨rfl, rfl⟩ : .bracket o = o' ∧ opened = opened' := by simpa [Change.apply] using h
      simp [hc, ho, bracketsIn]
  · simp only [hc, ho, bracketsIn_eq_of_isNeutral hneutral h, Bool.false_eq_true, if_false]

/-- A reader of brackets alone goes along with a run. -/
theorem bracketsMatch_of_run {s t : Nesting} {cs : List Char} (h : s.run cs = some t)
    (rest : List Char) :
    bracketsMatch (bracketsIn s.opened) (cs ++ rest)
      = bracketsMatch (bracketsIn t.opened) rest := by
  induction cs generalizing s with
  | nil =>
    obtain rfl : s = t := by simpa [run] using h
    rfl
  | cons c cs ih =>
    rw [run] at h
    obtain ⟨u, hu, hrest⟩ := Option.bind_eq_some_iff.1 h
    obtain ⟨change, haction, hopened⟩ := next_eq_some_iff.1 hu
    rw [List.cons_append, bracketsMatch_of_action haction hopened, ih hrest]

end Nesting

end Widgetry.Component
