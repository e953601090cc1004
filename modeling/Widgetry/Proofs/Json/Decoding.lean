import Mathlib.Data.List.Forall2
import Widgetry.Json.Decode
import Widgetry.Proofs.Json.Value

/-!
Decoders on the trees of values. Any value that is not nested too deep can be kept, and counts as
its text where text is wanted; lists and maps are decoded item by item and member by member. A map
keeps the last value of every key, so the entries of a dictionary make the same dictionary again
(`Dictionary.ofList_entries`).

For each way to make a decoder there is one statement of when it succeeds and with what, on the tree
of a value. They are equivalences, so that they serve both to read back what was written and to say
which values are refused. Depth is the only reason to refuse a value that every decoder has.
-/

namespace Widgetry

/-! ## 1. Dictionaries of their own entries -/

theorem insertAscending_of_above {α : Type} {entries : List (String × α)} {key : String}
    (h : ∀ e ∈ entries, e.1 < key) (value : α) :
    insertAscending key value entries = entries ++ [(key, value)] := by
  induction entries with
  | nil => rfl
  | cons head rest ih =>
    obtain ⟨k, v⟩ := head
    rw [List.forall_mem_cons] at h
    have hlt : k < key := h.1
    have hne : key ≠ k := fun heq => String.lt_irrefl k (heq ▸ hlt)
    rw [insertAscending, if_neg fun h' => String.lt_irrefl k (String.lt_trans hlt h'), if_neg hne,
      ih h.2, List.cons_append]

theorem Dictionary.eq_of_entries_eq {α : Type} {d e : Dictionary α} (h : d.entries = e.entries) :
    d = e := by
  obtain ⟨entries, _⟩ := d
  obtain ⟨_, _⟩ := e
  obtain rfl : entries = _ := h
  rfl

/-- The entries of a dictionary make this dictionary. -/
theorem Dictionary.ofList_entries {α : Type} (d : Dictionary α) : ofList d.entries = d := by
  obtain ⟨entries, hentries⟩ := d
  have hfold (ms done : List (String × α)) (h : Ascending (done ++ ms)) (hdone : Ascending done) :
      (ms.foldl (fun d e => Dictionary.insert d e.1 e.2) ⟨done, hdone⟩).entries = done ++ ms := by
    induction ms generalizing done with
    | nil => simp
    | cons m ms ih =>
      obtain ⟨-, -, habove⟩ := List.pairwise_append.1 h
      have hinsert := insertAscending_of_above
        (fun e he => habove e he m List.mem_cons_self) m.2
      have hnext := ih (insertAscending m.1 m.2 done) (by rw [hinsert]; simpa using h)
        (ascending_insertAscending hdone)
      rw [List.foldl_cons]
      refine hnext.trans ?_
      rw [hinsert, List.append_assoc, List.singleton_append]
  have hall := hfold entries [] (by simpa using hentries) List.Pairwise.nil
  rw [ofList]
  cases hd : entries.foldl (fun d e => d.insert e.1 e.2) empty with
  | mk entries' _ =>
    rw [empty] at hd
    rw [hd] at hall
    simpa using hall

namespace Json

variable {α : Type} {o : Origin} {d : Depth} {v : Value}

namespace Decoder

/-! ## 2. Values and texts -/

theorem value_eq_ok (h : v.nesting ≤ d) : value o d v.raw = .ok v.sorted := by
  rw [value, value_raw h]

theorem scalar_eq_ok (h : v.nesting ≤ d) : scalar o d v.raw = .ok v.sorted.asText := by
  rw [scalar, value_raw h]
  rfl

theorem lenientText_eq_ok (h : v.nesting ≤ d) :
    lenientText o d v.raw = .ok (v.sorted.asText.getD "") := by
  rw [lenientText, scalar_eq_ok h]
  rfl

theorem text_eq_ok_iff {s : String} : text o d v.raw = .ok s ↔ v = .text s := by
  cases v <;> simp [text, Value.raw]

/-! ## 3. Null -/

theorem nullable_raw_eq_ok_iff {read : Decoder α} {a : Option α} :
    nullable read o d v.raw = .ok a
      ↔ v = .null ∧ a = none ∨ v ≠ .null ∧ ∃ b, read o d v.raw = .ok b ∧ a = some b := by
  have hmap (r : Raw) : (read o d r).map some = .ok a ↔ ∃ b, read o d r = .ok b ∧ a = some b := by
    cases read o d r <;> simp [Except.map, eq_comm]
  cases v with
  | null => simp [nullable, Value.raw, eq_comm]
  | _ => simp [nullable, Value.raw, hmap]

theorem orDefault_raw_eq_ok_iff {default : α} {read : Decoder α} {a : α} :
    orDefault default read o d v.raw = .ok a
      ↔ v = .null ∧ a = default ∨ v ≠ .null ∧ read o d v.raw = .ok a := by
  have hdefault : orDefault default read o d v.raw = .ok a
      ↔ ∃ b, nullable read o d v.raw = .ok b ∧ a = b.getD default := by
    rw [orDefault]
    cases nullable read o d v.raw <;> simp [bind, Except.bind, pure, Except.pure, eq_comm]
  rw [hdefault]
  simp only [nullable_raw_eq_ok_iff]
  constructor
  · rintro ⟨b, ⟨hv, rfl⟩ | ⟨hv, c, hc, rfl⟩, rfl⟩
    · exact .inl ⟨hv, rfl⟩
    · exact .inr ⟨hv, hc⟩
  · rintro (⟨hv, rfl⟩ | ⟨hv, ha⟩)
    · exact ⟨none, .inl ⟨hv, rfl⟩, rfl⟩
    · exact ⟨some a, .inr ⟨hv, a, ha, rfl⟩, rfl⟩

/-! ## 4. Lists and maps -/

/-- An array is read item by item. -/
theorem list_array_eq_ok_iff {read : Decoder α} {items : List Value} {as : List α} :
    list read o (d + 1) (Value.array items).raw = .ok as
      ↔ List.Forall₂ (fun v a => read o d v.raw = .ok a) items as := by
  rw [Value.raw, list]
  change Decoder.items (read o d) (rawItems items) = .ok as ↔ _
  induction items generalizing as with
  | nil => simp [Decoder.items, eq_comm]
  | cons v vs ih =>
    rw [rawItems_cons, Decoder.items, List.forall₂_cons_left_iff]
    cases hv : read o d v.raw with
    | error e => simp [bind, Except.bind]
    | ok a =>
      simp only [← ih, mapError_ok]
      cases Decoder.items (read o d) (rawItems vs) <;>
        simp [bind, Except.bind, pure, Except.pure, eq_comm]

/-- An array that is read may be opened. -/
theorem exists_depth_of_list_eq_ok {read : Decoder α} {items : List Value} {as : List α}
    (h : list read o d (Value.array items).raw = .ok as) : ∃ d', d = d' + 1 := by
  cases d with
  | zero => simp [list, Value.raw, Depth.enter, bind, Except.bind] at h
  | succ d' => exact ⟨d', rfl⟩

/-- What is no array is not read as a list. -/
theorem exists_of_list_eq_ok {read : Decoder α} {as : List α}
    (h : list read o d v.raw = .ok as) : ∃ items, v = .array items := by
  cases v with
  | array items => exact ⟨items, rfl⟩
  | _ => simp [list, Value.raw] at h

/-- An array may be read item by item exactly if every item may be. -/
theorem exists_list_array_eq_ok_iff {read : Decoder α} {items : List Value} :
    (∃ as, list read o (d + 1) (Value.array items).raw = .ok as)
      ↔ ∀ v ∈ items, ∃ a, read o d v.raw = .ok a := by
  simp only [list_array_eq_ok_iff]
  induction items with
  | nil => simp
  | cons v vs ih =>
    rw [List.forall_mem_cons, ← ih]
    constructor
    · rintro ⟨as, has⟩
      obtain ⟨a, as', ha, has', rfl⟩ := List.forall₂_cons_left_iff.1 has
      exact ⟨⟨a, ha⟩, as', has'⟩
    · rintro ⟨⟨a, ha⟩, as, has⟩
      exact ⟨a :: as, .cons ha has⟩

/-- Any members of an object can be kept, the last one of every key. -/
theorem map_object_eq_ok {ms : List (String × Value)} (h : ∀ m ∈ ms, m.2.nesting ≤ d) :
    map value o (d + 1) (Value.object ms).raw
      = .ok (.ofList (ms.map fun m => (m.1, m.2.sorted))) := by
  have hmembers (done : Dictionary Value) :
      members (value o d) (rawMembers ms) done
        = .ok ((ms.map fun m => (m.1, m.2.sorted)).foldl (fun d e => d.insert e.1 e.2) done) := by
    induction ms generalizing done with
    | nil => rfl
    | cons m ms ih =>
      rw [List.forall_mem_cons] at h
      rw [rawMembers_cons, members, value_eq_ok h.1]
      exact mapError_eq_ok_iff.2 (ih h.2 _)
  exact hmembers .empty

/-- What is no object is not read as a map. -/
theorem exists_of_map_eq_ok {read : Decoder α} {m : Dictionary α}
    (h : map read o d v.raw = .ok m) : ∃ members, v = .object members := by
  cases v with
  | object members => exact ⟨members, rfl⟩
  | _ => simp [map, Value.raw] at h

/-! ## 5. Whole texts -/

/-- A text that is read as a tree and nothing else is decoded as the tree. -/
theorem ofText_eq_ok_iff {read : Decoder α} {text : String} {r : Raw} {a : α}
    (h : Raw.ofText text = (r, [])) :
    read.ofText text = .ok a ↔ read .text deepest r = .ok a := by
  rw [ofText, readText_eq_ok_iff, h]
  exact and_iff_left rfl

/-- What a text is decoded as is read from its tree, and nothing follows the tree. -/
theorem of_ofText_eq_ok {read : Decoder α} {text : String} {a : α}
    (h : read.ofText text = .ok a) :
    read .text deepest (Raw.ofText text).1 = .ok a ∧ (Raw.ofText text).2 = [] :=
  readText_eq_ok_iff.1 h

/-- Texts that are read as the same tree are decoded alike, and what is wrong with one of them is
wrong with the other, though maybe at another place. -/
theorem ofText_unplaced_of_tree_eq {read : Decoder α} {text text' : String}
    (h : Raw.ofText text = Raw.ofText text') :
    (read.ofText text).mapError Error.unplaced = (read.ofText text').mapError Error.unplaced := by
  rw [ofText, ofText, readText, readText, h]
  dsimp only
  cases read .text deepest (Raw.ofText text').1 with
  | error t => rfl
  | ok a => cases (Raw.ofText text').2 <;> rfl

end Decoder

end Json

end Widgetry
