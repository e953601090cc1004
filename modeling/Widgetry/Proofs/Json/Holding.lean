import Widgetry.Proofs.Json.Order

/-!
Texts that hold a value. A text is the text of a value if the tree that is read from it is the
value's own, nothing follows it, and it is not nested too deep (`Holds`); the value then has the
members of its objects in the order of the text, those that repeat a key included. These are exactly
the texts that can be parsed, and parsing them gives the value with its members in ascending order
(`Value.parse_eq_ok_iff`).
-/

namespace Widgetry.Json

/-- A text holds a value, with the members of its objects in the order of the text. -/
structure Holds (text : String) (v : Value) : Prop where
  tree : Raw.ofText text = (v.raw, [])
  depth : v.nesting ≤ deepest

/-! ## 1. Trees that are kept -/

/-- A tree that is entered may be nested deeper by one than what is inside. -/
theorem Depth.eq_succ_of_enter_eq_ok {d d' : Depth} (h : d.enter = .ok d') : d = d' + 1 := by
  cases d with
  | zero => cases h
  | succ d => rw [← Except.ok.inj h]

mutual

/-- A tree that can be kept is the tree of a value. -/
theorem Raw.exists_of_value_eq_ok {d : Depth} {r : Raw} {w : Value} (h : r.value d = .ok w) :
    ∃ v : Value, r = v.raw ∧ v.nesting ≤ d ∧ v.sorted = w := by
  match r with
  | .null =>
    obtain rfl := Except.ok.inj h
    exact ⟨.null, rfl, Nat.zero_le d, rfl⟩
  | .bool b =>
    obtain rfl := Except.ok.inj h
    exact ⟨.bool b, rfl, Nat.zero_le d, rfl⟩
  | .number (.ok n) =>
    obtain rfl := Except.ok.inj h
    exact ⟨.number n, rfl, Nat.zero_le d, rfl⟩
  | .text (.ok s) =>
    obtain rfl := Except.ok.inj h
    exact ⟨.text s, rfl, Nat.zero_le d, rfl⟩
  | .array items =>
    obtain ⟨d', henter, h⟩ := exists_of_bind_eq_ok h
    obtain ⟨ws, hitems, h⟩ := exists_of_bind_eq_ok h
    obtain ⟨vs, rfl, hdepth, rfl⟩ := Items.exists_of_values_eq_ok hitems
    obtain rfl : Value.array (sortedItems vs) = w := Except.ok.inj h
    obtain rfl := Depth.eq_succ_of_enter_eq_ok henter
    exact ⟨.array vs, rfl, Nat.succ_le_succ (nestingOfItems_le_iff.2 hdepth), rfl⟩
  | .object members =>
    obtain ⟨d', henter, h⟩ := exists_of_bind_eq_ok h
    obtain ⟨ns, hmembers, h⟩ := exists_of_bind_eq_ok h
    obtain ⟨ms, rfl, hdepth, rfl⟩ := Members.exists_of_values_eq_ok hmembers
    obtain rfl : Value.object (sortedMembers ms []) = w := Except.ok.inj h
    obtain rfl := Depth.eq_succ_of_enter_eq_ok henter
    exact ⟨.object ms, rfl, Nat.succ_le_succ (nestingOfMembers_le_iff.2 hdepth), rfl⟩
  | .number (.error f) => simp [Raw.value] at h
  | .text (.error f) => simp [Raw.value] at h
  | .broken kept skipped => simp [Raw.value] at h

theorem Items.exists_of_values_eq_ok {d : Depth} {items : Items} {ws : List Value}
    (h : items.values d = .ok ws) :
    ∃ vs, items = rawItems vs ∧ (∀ v ∈ vs, v.nesting ≤ d) ∧ sortedItems vs = ws := by
  match items with
  | .closed =>
    obtain rfl := Except.ok.inj h
    exact ⟨[], rfl, List.forall_mem_nil _, rfl⟩
  | .stopped kept skipped => simp [Items.values] at h
  | .cons item rest =>
    obtain ⟨w, hitem, h⟩ := exists_of_bind_eq_ok h
    obtain ⟨ws', hrest, h⟩ := exists_of_bind_eq_ok h
    obtain ⟨v, rfl, hv, rfl⟩ := Raw.exists_of_value_eq_ok (mapError_eq_ok_iff.1 hitem)
    obtain ⟨vs, rfl, hvs, rfl⟩ := Items.exists_of_values_eq_ok (mapError_eq_ok_iff.1 hrest)
    obtain rfl : v.sorted :: sortedItems vs = ws := Except.ok.inj h
    exact ⟨v :: vs, rfl, List.forall_mem_cons.2 ⟨hv, hvs⟩, rfl⟩

theorem Members.exists_of_values_eq_ok {d : Depth} {members : Members}
    {done ns : List (String × Value)} (h : members.values d done = .ok ns) :
    ∃ ms, members = rawMembers ms ∧ (∀ m ∈ ms, m.2.nesting ≤ d) ∧ sortedMembers ms done = ns := by
  match members with
  | .closed =>
    obtain rfl := Except.ok.inj h
    exact ⟨[], rfl, List.forall_mem_nil _, rfl⟩
  | .stopped kept skipped => simp [Members.values] at h
  | .cons (.error f) value rest => simp [Members.values] at h
  | .cons (.ok key) value rest =>
    obtain ⟨w, hvalue, h⟩ := exists_of_bind_eq_ok h
    obtain ⟨v, rfl, hv, rfl⟩ := Raw.exists_of_value_eq_ok (mapError_eq_ok_iff.1 hvalue)
    obtain ⟨ms, rfl, hms, rfl⟩ := Members.exists_of_values_eq_ok (mapError_eq_ok_iff.1 h)
    exact ⟨(key, v) :: ms, rfl, List.forall_mem_cons.2 ⟨hv, hms⟩, rfl⟩

end

/-! ## 2. Texts -/

/-- A text can be parsed exactly if it holds a value, and parsing sorts the members of its
objects. -/
theorem Value.parse_eq_ok_iff {text : String} {w : Value} :
    Value.parse text = .ok w ↔ ∃ v, Holds text v ∧ v.sorted = w := by
  rw [Value.parse, readText_eq_ok_iff]
  constructor
  · rintro ⟨hvalue, hrest⟩
    obtain ⟨v, hraw, hdepth, hsorted⟩ := Raw.exists_of_value_eq_ok hvalue
    exact ⟨v, ⟨Prod.ext hraw hrest, hdepth⟩, hsorted⟩
  · rintro ⟨v, ⟨htree, hdepth⟩, rfl⟩
    rw [htree]
    exact ⟨value_raw hdepth, rfl⟩

/-- A text that holds a value is decoded as the value's tree. -/
theorem Holds.ofText_eq_ok_iff {α : Type} {text : String} {v : Value} (h : Holds text v)
    {read : Decoder α} {a : α} :
    read.ofText text = .ok a ↔ read .text deepest v.raw = .ok a :=
  Decoder.ofText_eq_ok_iff h.tree

end Widgetry.Json
