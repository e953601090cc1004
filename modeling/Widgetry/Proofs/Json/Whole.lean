import Widgetry.Proofs.Json.Holding
import Widgetry.Proofs.Json.Record

/-!
Whole trees. A tree is whole if it can be passed over, so that no fault is anywhere in it. Decoders
look at all of a tree: what they read is whole (`Decoder.Wholly`), although they keep much less of
it than a value has, such as members of an object that no field has. A tree that a fault has cut off
is not whole (`not_whole_halt`), so what decoders read was closed by its text.

The converse is not true: a whole tree may be refused for what is in it. The statement is needed
only in one direction, and it is what tells a document from its beginning: text that breaks off, or
has a fault in a place that nobody asks for, is never read as anything.
-/

namespace Widgetry.Json

/-- Whether there is no fault in a tree. -/
def Raw.Whole (r : Raw) : Prop :=
  r.skip = .ok ()

/-- Whether there is no fault in or behind items. -/
def Items.Whole (xs : Items) : Prop :=
  xs.skip = .ok ()

/-- Whether there is no fault in or behind members. -/
def Members.Whole (ms : Members) : Prop :=
  ms.skip = .ok ()

/-- An array is whole if its items are. -/
@[simp] theorem whole_array {xs : Items} : (Raw.array xs).Whole ↔ xs.Whole := by
  rw [Raw.Whole, Raw.skip, Items.Whole]

/-- An object is whole if its members are. -/
@[simp] theorem whole_object {ms : Members} : (Raw.object ms).Whole ↔ ms.Whole := by
  rw [Raw.Whole, Raw.skip, Members.Whole]

@[simp] theorem not_whole_broken {kept skipped : Fault} : ¬(Raw.broken kept skipped).Whole := by
  simp [Raw.Whole, Raw.skip]

@[simp] theorem Items.whole_closed : Items.closed.Whole := rfl

@[simp] theorem Items.not_whole_stopped {kept skipped : Fault} :
    ¬(Items.stopped kept skipped).Whole := by
  simp [Whole, skip]

@[simp] theorem Items.whole_cons {item : Raw} {rest : Items} :
    (Items.cons item rest).Whole ↔ item.Whole ∧ rest.Whole := by
  rw [Whole, skip, Raw.Whole, Whole]
  cases item.skip <;> simp [mapError_eq_ok_iff]

@[simp] theorem Members.whole_closed : Members.closed.Whole := rfl

@[simp] theorem Members.not_whole_stopped {kept skipped : Fault} :
    ¬(Members.stopped kept skipped).Whole := by
  simp [Whole, skip]

@[simp] theorem Members.whole_cons {key : Except Fault String} {v : Raw} {rest : Members} :
    (Members.cons key v rest).Whole ↔ v.Whole ∧ rest.Whole := by
  rw [Whole, skip, Raw.Whole, Whole]
  cases v.skip <;> simp [mapError_eq_ok_iff]

/-! ## 1. Decoders -/

namespace Decoder

variable {α β : Type} {read : Decoder α}

/-- Whatever is read is whole. -/
def Wholly (read : Decoder α) : Prop :=
  ∀ ⦃o d r a⦄, read o d r = .ok a → r.Whole

/-- A decoder that makes something else of what another one reads. -/
theorem Wholly.map (h : read.Wholly) {read' : Decoder β}
    (hread : ∀ ⦃o d r b⦄, read' o d r = .ok b → ∃ a, read o d r = .ok a) : read'.Wholly := by
  intro o d r b hb
  obtain ⟨a, ha⟩ := hread hb
  exact h ha

theorem wholly_value : value.Wholly := by
  intro o d r v h
  cases hv : r.value d with
  | error t => simp [value, hv] at h
  | ok w =>
    obtain ⟨v, rfl, -⟩ := Raw.exists_of_value_eq_ok hv
    exact skip_raw v

/-- A scalar is read of whole trees only: what is passed over is read to its end too. -/
theorem wholly_scalar : scalar.Wholly :=
  wholly_value.map fun _ _ _ _ h => (exists_of_bind_eq_ok h).imp fun _ h => h.1

theorem wholly_lenientText : lenientText.Wholly :=
  wholly_scalar.map fun _ _ _ _ h => (exists_of_bind_eq_ok h).imp fun _ h => h.1

/-- A text is read of whole trees only. -/
theorem wholly_text : text.Wholly := by
  intro o d r s h
  unfold text at h
  split at h
  · rfl
  · cases h

/-- So is what may be null. -/
theorem Wholly.nullable (h : read.Wholly) : (nullable read).Wholly := by
  intro o d r a ha
  unfold Decoder.nullable at ha
  split at ha
  · rfl
  · cases hread : read o d r with
    | error e => simp [hread, Except.map] at ha
    | ok b => exact h hread

/-- So is what has a default: a value out of place is passed over, but it has to be whole. -/
theorem Wholly.orDefault (h : read.Wholly) {default : α} : (orDefault default read).Wholly :=
  h.nullable.map fun _ _ _ _ h => (exists_of_bind_eq_ok h).imp fun _ h => h.1

/-- Items that are all read are whole, and the array is closed. -/
theorem whole_of_items {read : Raw → Except Trouble α} (h : ∀ ⦃r a⦄, read r = .ok a → r.Whole)
    {xs : Items} {as : List α} (has : items read xs = .ok as) : xs.Whole := by
  fun_induction items read xs generalizing as with
  | case1 => exact Items.whole_closed
  | case2 => cases has
  | case3 item rest ih =>
    obtain ⟨a, ha, hrest⟩ := exists_of_bind_eq_ok has
    obtain ⟨bs, hbs, -⟩ := exists_of_bind_eq_ok hrest
    exact Items.whole_cons.2 ⟨h (mapError_eq_ok_iff.1 ha), ih (mapError_eq_ok_iff.1 hbs)⟩

/-- Lists are read of whole trees only. -/
theorem Wholly.list (h : read.Wholly) : (list read).Wholly := by
  intro o d r as has
  unfold Decoder.list at has
  split at has
  · obtain ⟨d', -, hitems⟩ := exists_of_bind_eq_ok has
    exact whole_array.2 (whole_of_items (@h _ _) hitems)
  · cases has

/-- Members that are all read are whole, and the object is closed. -/
theorem whole_of_members {read : Raw → Except Trouble α} (h : ∀ ⦃r a⦄, read r = .ok a → r.Whole)
    {ms : Members} {done all : Dictionary α} (hall : members read ms done = .ok all) :
    ms.Whole := by
  fun_induction members read ms done with
  | case1 => exact Members.whole_closed
  | case2 => cases hall
  | case3 => cases hall
  | case4 done key v rest ih =>
    obtain ⟨a, ha, hrest⟩ := exists_of_bind_eq_ok hall
    exact Members.whole_cons.2 ⟨h (mapError_eq_ok_iff.1 ha), ih a (mapError_eq_ok_iff.1 hrest)⟩

/-- Maps are read of whole trees only. -/
theorem Wholly.members (h : read.Wholly) : (Decoder.map read).Wholly := by
  intro o d r all hall
  unfold Decoder.map at hall
  split at hall
  · obtain ⟨d', -, hmembers⟩ := exists_of_bind_eq_ok hall
    exact whole_object.2 (whole_of_members (@h _ _) hmembers)
  · cases hall

end Decoder

/-! ## 2. Records -/

variable {σ ρ : Type}

/-- Whatever a field reads is whole. -/
def RecordField.Wholly (f : RecordField σ) : Prop :=
  f.read.Wholly

/-- A field is read of whole trees only if its decoder is. -/
theorem RecordField.wholly_slot {α : Type} {name : String} {get : σ → Option α}
    {set : Option α → σ → σ} {read : Decoder α} (h : read.Wholly) :
    (slot name get set read).Wholly := by
  refine h.map fun o d r put hput => ?_
  cases hread : read o d r with
  | error e => simp [slot, hread, Except.map] at hput
  | ok a => exact ⟨a, rfl⟩

namespace RecordKind

/-- The members of a record are whole: those of fields are read, and the others are passed over. -/
theorem whole_of_readMembers {fields : List (RecordField σ)} (h : ∀ f ∈ fields, f.Wholly)
    {o : Origin} {d : Depth} {ms : Members} {s s' : σ}
    (hread : readMembers fields o d ms s = .ok s') : ms.Whole := by
  fun_induction readMembers fields o d ms s with
  | case1 s => exact Members.whole_closed
  | case4 key v rest s hfind hskip ih =>
    exact Members.whole_cons.2 ⟨hskip, ih (mapError_eq_ok_iff.1 hread)⟩
  | case7 key v rest s field hfind hfilled put hput ih =>
    exact Members.whole_cons.2
      ⟨h field (List.mem_of_find?_eq_some hfind) hput, ih (mapError_eq_ok_iff.1 hread)⟩
  | _ => simp at hread

/-- The items of a record are whole if those left over are. -/
theorem whole_of_readItems {fields : List (RecordField σ)} (h : ∀ f ∈ fields, f.Wholly)
    {o : Origin} {d : Depth} {xs rest : Items} {s s' : σ}
    (hread : readItems o d fields xs s = .ok (s', rest)) (hrest : rest.Whole) : xs.Whole := by
  fun_induction readItems o d fields xs s with
  | case1 xs s => simp_all
  | case2 => exact Items.whole_closed
  | case3 => simp at hread
  | case4 field fields item rest' s put hput ih =>
    rw [List.forall_mem_cons] at h
    exact Items.whole_cons.2 ⟨h.1 hput, ih h.2 (mapError_eq_ok_iff.1 hread)⟩
  | case5 => simp at hread

/-- A record is read from a whole tree; of an array this is checked at its end. -/
theorem wholly_decoder {k : RecordKind σ ρ} (h : ∀ f ∈ k.fields, f.Wholly) :
    k.decoder.Wholly := by
  intro o d r a ha
  unfold decoder at ha
  split at ha
  · obtain ⟨d', -, hmembers⟩ := exists_of_bind_eq_ok ha
    obtain ⟨s, hs, -⟩ := exists_of_bind_eq_ok hmembers
    exact whole_object.2 (whole_of_readMembers h hs)
  · obtain ⟨d', -, hitems⟩ := exists_of_bind_eq_ok ha
    obtain ⟨⟨s, rest⟩, hs, hcomplete⟩ := exists_of_bind_eq_ok hitems
    refine whole_array.2 (whole_of_readItems h hs ?_)
    dsimp only at hcomplete
    split at hcomplete
    · obtain ⟨_, hend, -⟩ := exists_of_bind_eq_ok hcomplete
      cases rest with
      | closed => exact Items.whole_closed
      | stopped kept skipped => simp [checkEnd] at hend
      | cons item rest => cases o <;> simp [checkEnd] at hend
    · cases hcomplete
  · cases ha

/-- What is neither an object nor an array is no record. -/
theorem exists_of_decoder_ok {k : RecordKind σ ρ} {o : Origin} {d : Depth} {r : Raw} {a : ρ}
    (h : k.decoder o d r = .ok a) : (∃ ms, r = .object ms) ∨ ∃ xs, r = .array xs := by
  cases r with
  | object ms => exact .inl ⟨ms, rfl⟩
  | array xs => exact .inr ⟨xs, rfl⟩
  | _ => simp [decoder] at h

end RecordKind

/-! ## 3. Trees that a fault cut off -/

/-- Items in front do not mend a tail that is cut off. -/
theorem not_whole_prependReverse_items {done : List Raw} {tail : Items} (h : ¬tail.Whole) :
    ¬(Items.prependReverse done tail).Whole := by
  induction done generalizing tail with
  | nil => exact h
  | cons x xs ih => exact ih fun hwhole => h (Items.whole_cons.1 hwhole).2

/-- Nor do members. -/
theorem not_whole_prependReverse_members {done : List RawMember} {tail : Members}
    (h : ¬tail.Whole) : ¬(Members.prependReverse done tail).Whole := by
  induction done generalizing tail with
  | nil => exact h
  | cons m ms ih => exact ih fun hwhole => h (Members.whole_cons.1 hwhole).2

/-- What nothing closes any more is not whole. -/
theorem not_whole_plug {v : Raw} (h : ¬v.Whole) (stack : List Frame) : ¬(plug v stack).Whole := by
  induction stack generalizing v with
  | nil => exact h
  | cons frame stack ih =>
    cases frame with
    | array done =>
      exact ih fun hwhole =>
        not_whole_prependReverse_items (by simp) (whole_array.1 hwhole)
    | object done key =>
      exact ih fun hwhole =>
        not_whole_prependReverse_members (by simp) (whole_object.1 hwhole)

/-- In no state is a tree whole that a fault cuts off. -/
theorem not_whole_halt (st : State) (kept skipped : Fault) (stack : List Frame) :
    ¬(st.halt kept skipped stack).Whole := by
  cases st with
  | value => exact not_whole_plug not_whole_broken stack
  | firstItem => exact not_whole_plug (by simp) stack
  | nextItem done | afterItem done =>
    exact not_whole_plug (mt whole_array.1 (not_whole_prependReverse_items (by simp))) stack
  | firstKey => exact not_whole_plug (by simp) stack
  | nextKey done | afterMember done =>
    exact not_whole_plug (mt whole_object.1 (not_whole_prependReverse_members (by simp))) stack
  | colon done key => exact not_whole_plug not_whole_broken _

/-- In no state is a tree whole where the text ends. -/
theorem not_whole_ended (st : State) (stack : List Frame) : ¬(st.ended stack).Whole := by
  have hhalt : ∃ kept skipped, st.ended stack = st.halt kept skipped stack := by
    cases st <;> exact ⟨_, _, rfl⟩
  obtain ⟨kept, skipped, heq⟩ := hhalt
  rw [heq]
  exact not_whole_halt st kept skipped stack

end Widgetry.Json
