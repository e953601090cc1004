import Widgetry.Proofs.Json.Decoding
import Widgetry.Proofs.Json.Record

/-!
Another member of an object. Where a record was read from an object, and one member of it is given
another value, added or left out, the record is read with one slot set anew or left open, and with
all else as before (`RecordKind.exists_alterMember`). So what becomes of the record is a matter of
the one decoder of the field and of how the record is made of its slots.

The member is found by its name, so the statement holds wherever in the object it stands, and
whatever members there are that belong to no field. An item of an array is covered too: an array is
read as the object that has its items under the names of the fields.
-/

namespace Widgetry.Json

/-! ## 1. Members -/

/-- Changes the member of a key, adds one or leaves it out. -/
def alterMember (key : String) (f : Option Value → Option Value) :
    List (String × Value) → List (String × Value)
  | [] => (f none).toList.map fun v => (key, v)
  | (k, v) :: ms =>
    if k = key then ((f (some v)).toList.map fun v => (key, v)) ++ ms
    else (k, v) :: alterMember key f ms

section

variable {key : String} {f : Option Value → Option Value} {ms : List (String × Value)}

theorem mem_keys_alterMember {name : String} (h : name ∈ (alterMember key f ms).map Prod.fst) :
    name = key ∨ name ∈ ms.map Prod.fst := by
  have hone (v : Option Value) (h : name ∈ (v.toList.map fun v => (key, v)).map Prod.fst) :
      name = key := by
    cases v <;> simp_all
  fun_induction alterMember key f ms with
  | case1 => exact .inl (hone _ h)
  | case2 v ms =>
    rw [List.map_append, List.mem_append] at h
    exact h.imp (hone _) (List.mem_cons_of_mem _)
  | case3 k v ms _ ih =>
    rcases List.mem_cons.1 h with rfl | h
    · exact .inr List.mem_cons_self
    · exact (ih h).imp_right (List.mem_cons_of_mem _)

theorem nodup_keys_alterMember (h : (ms.map Prod.fst).Nodup) :
    ((alterMember key f ms).map Prod.fst).Nodup := by
  fun_induction alterMember key f ms with
  | case1 => cases f none <;> simp
  | case2 v ms =>
    cases f (some v) with
    | none => exact (List.nodup_cons.1 h).2
    | some w => exact h
  | case3 k v ms hk ih =>
    obtain ⟨hnew, hrest⟩ := List.nodup_cons.1 h
    refine List.nodup_cons.2 ⟨fun hmem => ?_, ih hrest⟩
    rcases mem_keys_alterMember hmem with heq | hmem
    · exact hk heq
    · exact hnew hmem

theorem look_alterMember_of_ne {name : String} (h : name ≠ key) :
    look (alterMember key f ms) name = look ms name := by
  have hone (v : Option Value) (ms : List (String × Value)) :
      look ((v.toList.map fun v => (key, v)) ++ ms) name = look ms name := by
    cases v with
    | none => rfl
    | some v => exact look_cons_of_ne h.symm ms
  fun_induction alterMember key f ms with
  | case1 => simpa using hone (f none) []
  | case2 v ms => rw [hone, look_cons_of_ne h.symm]
  | case3 k v ms _ ih => rw [look_cons, look_cons, ih]

theorem member?_cons (k : String) (v : Value) (ms : List (String × Value)) :
    (Value.object ((k, v) :: ms)).member? key
      = if k = key then some v else (Value.object ms).member? key := by
  by_cases h : k = key <;> simp [Value.member?, h]

theorem mem_of_member?_eq_some {v : Value} (h : (Value.object ms).member? key = some v) :
    (key, v) ∈ ms := by
  obtain ⟨m, hm, rfl⟩ := Option.map_eq_some_iff.1 h
  obtain rfl : m.1 = key := by simpa using List.find?_some hm
  exact List.mem_of_find?_eq_some hm

theorem look_eq_map_member? :
    look ms key = ((Value.object ms).member? key).map Value.raw := by
  simp [look, Value.member?, Function.comp_def]

theorem look_alterMember_self (h : (ms.map Prod.fst).Nodup) :
    look (alterMember key f ms) key = (f ((Value.object ms).member? key)).map Value.raw := by
  have hone (v : Option Value) (ms : List (String × Value)) (h : key ∉ ms.map Prod.fst) :
      look ((v.toList.map fun v => (key, v)) ++ ms) key = v.map Value.raw := by
    cases v with
    | none => exact look_eq_none h
    | some v => exact look_cons_self key v ms
  fun_induction alterMember key f ms with
  | case1 => simpa [Value.member?] using hone (f none) [] List.not_mem_nil
  | case2 v ms => rw [hone _ _ (List.nodup_cons.1 h).1, member?_cons, if_pos rfl]
  | case3 k v ms hk ih =>
    rw [look_cons_of_ne hk, ih (List.nodup_cons.1 h).2, member?_cons, if_neg hk]

end

/-! ## 2. Records -/

variable {σ ρ α : Type}

/-- A slot from which what was set is got, and of which what was set last counts. -/
structure LawfulSlot (get : σ → Option α) (set : Option α → σ → σ) : Prop where
  get_set : ∀ a s, get (set a s) = a
  set_set : ∀ a b s, set a (set b s) = set a s
  set_get : ∀ s, set (get s) s = s

namespace RecordKind

variable {k : RecordKind σ ρ} {name : String} {get : σ → Option α} {set : Option α → σ → σ}
  {read : Decoder α} {o : Origin} {d : Depth} {ms : List (String × Value)}

theorem gather_slot_eq_ok_iff (hk : k.Sound) (hf : .slot name get set read ∈ k.fields)
    {look look' : String → Option Raw} {r : Raw} (hr : look name = some r)
    (hnone : look' name = none) (hagree : ∀ key, key ≠ name → look key = look' key) {s' : σ} :
    gather o d look k.fields k.start = .ok s'
      ↔ ∃ b s₀, read o d r = .ok b ∧ gather o d look' k.fields k.start = .ok s₀
        ∧ s' = set (some b) s₀ := by
  rw [gather_eq_ok_iff_of_agree hk.independent hf hr hnone hagree]
  dsimp only [RecordField.slot]
  cases read o d r with
  | error e => simp [Except.map]
  | ok b => simp [Except.map]

/-- Where nothing was found a slot is still open. -/
theorem get_eq_none_of_gather (hk : k.Sound) (hf : .slot name get set read ∈ k.fields)
    {look : String → Option Raw} {s : σ} (h : gather o d look k.fields k.start = .ok s)
    (hnone : look name = none) : get s = none := by
  have hfilled := filled_of_gather hk.independent h hf
  rw [hk.start _ hf, show look (RecordField.slot name get set read).name = none from hnone]
    at hfilled
  exact Option.not_isSome_iff_eq_none.1 (by simpa [RecordField.slot] using hfilled)

theorem look_eq_of_agree {look rest : String → Option Raw} (hname : look name = rest name)
    (hagree : ∀ key, key ≠ name → look key = rest key) : look = rest := by
  funext key
  by_cases hne : key = name
  · rw [hne, hname]
  · exact hagree key hne

/-- A look-up that finds nothing for one slot, and for the others the same, reads the same but for
an open slot. -/
theorem gather_open (hk : k.Sound) (hf : .slot name get set read ∈ k.fields)
    (hslot : LawfulSlot get set) {look rest : String → Option Raw} (hrest : rest name = none)
    (hagree : ∀ key, key ≠ name → look key = rest key) {s : σ}
    (hs : gather o d look k.fields k.start = .ok s) :
    gather o d rest k.fields k.start = .ok (set none s)
      ∧ ∀ r, look name = some r → ∃ b, read o d r = .ok b ∧ get s = some b := by
  cases hr : look name with
  | none =>
    have hsame : look = rest := look_eq_of_agree (hr.trans hrest.symm) hagree
    have hget := get_eq_none_of_gather hk hf hs hr
    exact ⟨by rw [← hsame, hs, ← hget, hslot.set_get], nofun⟩
  | some r =>
    obtain ⟨b, s₀, hb, hs₀, rfl⟩ := (gather_slot_eq_ok_iff hk hf hr hrest hagree).1 hs
    have hget := get_eq_none_of_gather hk hf hs₀ hrest
    refine ⟨by rw [hslot.set_set, hs₀, ← hget, hslot.set_get], fun r' hr' => ?_⟩
    exact ⟨b, Option.some.inj hr' ▸ hb, hslot.get_set _ _⟩

/-- Where all else was read with one slot open, a look-up fills this slot if it finds something for
it. -/
theorem gather_eq_ok_iff_of_open (hk : k.Sound) (hf : .slot name get set read ∈ k.fields)
    (hslot : LawfulSlot get set) {look rest : String → Option Raw} (hrest : rest name = none)
    (hagree : ∀ key, key ≠ name → look key = rest key) {s s' : σ}
    (hopen : gather o d rest k.fields k.start = .ok (set none s)) :
    gather o d look k.fields k.start = .ok s'
      ↔ match look name with
        | some r => ∃ b, read o d r = .ok b ∧ s' = set (some b) s
        | none => s' = set none s := by
  cases hr : look name with
  | none =>
    have hsame : look = rest := look_eq_of_agree (hr.trans hrest.symm) hagree
    rw [hsame, hopen, Except.ok.injEq, eq_comm]
  | some r =>
    simp only [gather_slot_eq_ok_iff hk hf hr hrest hagree, hopen, Except.ok.injEq]
    constructor
    · rintro ⟨b, s₀, hb, rfl, rfl⟩
      exact ⟨b, hb, hslot.set_set _ _ _⟩
    · rintro ⟨b, hb, rfl⟩
      exact ⟨b, _, hb, rfl, (hslot.set_set _ _ _).symm⟩

/-- Where a record was read, a change of one member is a change of one slot: the member is read into
the slot, or the slot is left open. -/
theorem exists_alterMember (hk : k.Sound) (hf : .slot name get set read ∈ k.fields)
    (hslot : LawfulSlot get set) (hkeys : (ms.map Prod.fst).Nodup) {a : ρ}
    (h : k.decoder o (d + 1) (Value.object ms).raw = .ok a) :
    ∃ s, k.complete s = .ok a
      ∧ (∀ v, (Value.object ms).member? name = some v →
        ∃ b, read o d v.raw = .ok b ∧ get s = some b)
      ∧ ∀ f a', k.decoder o (d + 1) (Value.object (alterMember name f ms)).raw = .ok a'
        ↔ match f ((Value.object ms).member? name) with
          | some v => ∃ b, read o d v.raw = .ok b ∧ k.complete (set (some b) s) = .ok a'
          | none => k.complete (set none s) = .ok a' := by
  have hrest : look (alterMember name (fun _ => none) ms) name = none := look_alterMember_self hkeys
  have hagree (f : Option Value → Option Value) (key : String) (hne : key ≠ name) :
      look (alterMember name f ms) key = look (alterMember name (fun _ => none) ms) key :=
    (look_alterMember_of_ne hne).trans (look_alterMember_of_ne hne).symm
  obtain ⟨s, hs, ha⟩ := (decoder_object_eq_ok_iff hk hkeys).1 h
  obtain ⟨hopen, hread⟩ :=
    gather_open hk hf hslot hrest (fun _ hne => (look_alterMember_of_ne hne).symm) hs
  refine ⟨s, ha, fun v hv => hread v.raw (by rw [look_eq_map_member?, hv]; rfl), fun f a' => ?_⟩
  rw [decoder_object_eq_ok_iff hk (nodup_keys_alterMember hkeys)]
  simp only [gather_eq_ok_iff_of_open hk hf hslot hrest (hagree f) hopen,
    look_alterMember_self hkeys]
  cases f ((Value.object ms).member? name) with
  | none => simp
  | some v =>
    constructor
    · rintro ⟨s', ⟨b, hb, rfl⟩, ha'⟩
      exact ⟨b, hb, ha'⟩
    · rintro ⟨b, hb, ha'⟩
      exact ⟨_, ⟨b, hb, rfl⟩, ha'⟩

end RecordKind

end Widgetry.Json
