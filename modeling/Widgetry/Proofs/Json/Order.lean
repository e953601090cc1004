import Mathlib.Data.List.Perm.Basic
import Widgetry.Proofs.Json.Change
import Widgetry.Proofs.Json.Value

/-!
The order of members. A value is a reordering of another one if members of its objects, at whatever
depth, were permuted (`Value.Reordered`). Where no object repeats a key, reordered values are the
same once their members are sorted (`Value.Reordered.sorted_eq`).

Sorting inserts the members one after the other. What it makes of them is ascending, and a
permutation of the members with their values sorted (`sortedMembers_perm`), and there is only one
such list. That also says what is found in a sorted object (`member?_sortedMembers`), and that
sorting twice is sorting once (`sorted_sorted`).
-/

namespace Widgetry.Json

/-! ## 1. Ascending lists -/

/-- A new entry is one more, somewhere. -/
theorem insertAscending_perm {α : Type} {key : String} {entries : List (String × α)}
    (h : key ∉ entries.map Prod.fst) (value : α) :
    (insertAscending key value entries).Perm ((key, value) :: entries) := by
  induction entries with
  | nil => exact List.Perm.refl _
  | cons head rest ih =>
    obtain ⟨k, v⟩ := head
    rw [List.map_cons, List.mem_cons, not_or] at h
    rw [insertAscending]
    split
    · exact List.Perm.refl _
    · rw [if_neg h.1]
      exact ((ih h.2).cons (k, v)).trans (List.Perm.swap _ _ _)

/-- There is one ascending list of given entries. -/
theorem eq_of_perm_of_ascending {α : Type} {as bs : List (String × α)} (h : as.Perm bs)
    (has : Ascending as) (hbs : Ascending bs) : as = bs :=
  List.Perm.eq_of_pairwise (fun _ _ _ _ hab hba => absurd hba (String.lt_asymm hab)) has hbs h

/-- Keys in ascending order differ. -/
theorem nodup_keys_of_ascending {α : Type} {as : List (String × α)} (h : Ascending as) :
    (as.map Prod.fst).Nodup :=
  List.pairwise_map.2 (h.imp fun hlt => Std.ne_of_lt hlt)

/-! ## 2. Sorted members -/

/-- Members with their values sorted. -/
def sortedValues (ms : List (String × Value)) : List (String × Value) :=
  ms.map fun m => (m.1, m.2.sorted)

theorem sortedItems_eq (items : List Value) : sortedItems items = items.map Value.sorted := by
  induction items with
  | nil => rfl
  | cons v vs ih => rw [sortedItems, ih, List.map_cons]

/-- Only the members with their values sorted matter to sorting. -/
theorem sortedMembers_eq (ms done : List (String × Value)) :
    sortedMembers ms done
      = (sortedValues ms).foldl (fun done m => insertAscending m.1 m.2 done) done := by
  induction ms generalizing done with
  | nil => rfl
  | cons m ms ih =>
    rw [sortedMembers, ih]
    rfl

/-- Members that are put in one by one are in ascending order. -/
theorem ascending_sortedMembers (ms : List (String × Value)) {done : List (String × Value)}
    (h : Ascending done) : Ascending (sortedMembers ms done) := by
  induction ms generalizing done with
  | nil => exact h
  | cons m ms ih => exact ih (ascending_insertAscending h)

/-- Where no key comes twice no member is lost. -/
theorem sortedMembers_append_perm {ms done : List (String × Value)}
    (h : (ms.map Prod.fst ++ done.map Prod.fst).Nodup) :
    (sortedMembers ms done).Perm (sortedValues ms ++ done) := by
  induction ms generalizing done with
  | nil => exact List.Perm.refl _
  | cons m ms ih =>
    rw [List.map_cons, List.cons_append, List.nodup_cons, List.mem_append, not_or] at h
    obtain ⟨hnew, hrest⟩ := h
    have hinsert := insertAscending_perm hnew.2 m.2.sorted
    have hkeys : (ms.map Prod.fst
        ++ (insertAscending m.1 m.2.sorted done).map Prod.fst).Nodup := by
      have hperm := (hinsert.map Prod.fst).append_left (ms.map Prod.fst)
      rw [hperm.nodup_iff, List.map_cons, List.perm_middle.nodup_iff, List.nodup_cons,
        List.mem_append, not_or]
      exact ⟨hnew, hrest⟩
    have hnext := (ih hkeys).trans (hinsert.append_left (sortedValues ms))
    exact hnext.trans List.perm_middle

/-- Sorting permutes members with different keys. -/
theorem sortedMembers_perm {ms : List (String × Value)} (h : (ms.map Prod.fst).Nodup) :
    (sortedMembers ms []).Perm (sortedValues ms) := by
  have hperm : (sortedMembers ms []).Perm (sortedValues ms ++ []) :=
    sortedMembers_append_perm (by simpa using h)
  rwa [List.append_nil] at hperm

/-- Members that are permuted are the same once they are sorted. -/
theorem sortedMembers_eq_of_perm {ms ns : List (String × Value)} (hms : (ms.map Prod.fst).Nodup)
    (hns : (ns.map Prod.fst).Nodup) (h : (sortedValues ms).Perm (sortedValues ns)) :
    sortedMembers ms [] = sortedMembers ns [] := by
  have hperm := (sortedMembers_perm hms).trans (h.trans (sortedMembers_perm hns).symm)
  exact eq_of_perm_of_ascending hperm (ascending_sortedMembers ms List.Pairwise.nil)
    (ascending_sortedMembers ns List.Pairwise.nil)

theorem nodup_keys_sortedMembers (ms : List (String × Value)) :
    ((sortedMembers ms []).map Prod.fst).Nodup :=
  nodup_keys_of_ascending (ascending_sortedMembers ms List.Pairwise.nil)

/-- Where the keys differ a member is found exactly if it is there. -/
theorem member?_eq_some_iff {ms : List (String × Value)} (h : (ms.map Prod.fst).Nodup)
    {key : String} {v : Value} :
    (Value.object ms).member? key = some v ↔ (key, v) ∈ ms := by
  constructor
  · exact mem_of_member?_eq_some
  · intro hmem
    induction ms with
    | nil => exact absurd hmem List.not_mem_nil
    | cons m ms ih =>
      obtain ⟨k, w⟩ := m
      obtain ⟨hnew, hrest⟩ := List.nodup_cons.1 h
      rw [member?_cons]
      rcases List.mem_cons.1 hmem with heq | hmem
      · obtain ⟨rfl, rfl⟩ := Prod.mk.inj heq
        exact if_pos rfl
      · have hne : k ≠ key := by
          rintro rfl
          exact hnew (List.mem_map.2 ⟨_, hmem, rfl⟩)
        rw [if_neg hne]
        exact ih hrest hmem

/-- In a sorted object the same keys are found, with their values sorted. -/
theorem member?_sortedMembers {ms : List (String × Value)} (h : (ms.map Prod.fst).Nodup)
    (key : String) :
    (Value.object (sortedMembers ms [])).member? key
      = ((Value.object ms).member? key).map Value.sorted := by
  apply Option.ext
  intro v
  rw [member?_eq_some_iff (nodup_keys_sortedMembers ms), (sortedMembers_perm h).mem_iff,
    sortedValues, List.mem_map, Option.map_eq_some_iff]
  simp only [member?_eq_some_iff h]
  constructor
  · rintro ⟨⟨k, w⟩, hmem, heq⟩
    obtain ⟨rfl, rfl⟩ := Prod.mk.inj heq
    exact ⟨w, hmem, rfl⟩
  · rintro ⟨w, hmem, rfl⟩
    exact ⟨(key, w), hmem, rfl⟩

/-! ## 3. Sorted values -/

/-- The items of an array keep their order. -/
theorem sorted_array (items : List Value) :
    (Value.array items).sorted = .array (items.map Value.sorted) := by
  rw [Value.sorted, sortedItems_eq]

/-- The members of an object are put in order. -/
theorem sorted_object (ms : List (String × Value)) :
    (Value.object ms).sorted = .object (sortedMembers ms []) := by
  rw [Value.sorted]

theorem sorted_eq_null_iff {v : Value} : v.sorted = .null ↔ v = .null := by
  cases v <;> simp [Value.sorted]

/-- Only a text is put in order to a text. -/
theorem sorted_eq_text_iff {v : Value} {s : String} : v.sorted = .text s ↔ v = .text s := by
  cases v <;> simp [Value.sorted]

/-- Only an array is put in order to an array. -/
theorem sorted_eq_array_iff {v : Value} {ws : List Value} :
    v.sorted = .array ws ↔ ∃ vs, v = .array vs ∧ vs.map Value.sorted = ws := by
  cases v <;> simp [Value.sorted, sortedItems_eq]

/-- Only an object is put in order to an object. -/
theorem sorted_eq_object_iff {v : Value} {ns : List (String × Value)} :
    v.sorted = .object ns ↔ ∃ ms, v = .object ms ∧ sortedMembers ms [] = ns := by
  cases v <;> simp [Value.sorted]

/-- The values in a sorted object are those of the object, each of them sorted. -/
theorem exists_of_mem_sortedMembers {ms : List (String × Value)} (h : (ms.map Prod.fst).Nodup)
    {m : String × Value} (hm : m ∈ sortedMembers ms []) :
    ∃ n ∈ ms, m = (n.1, n.2.sorted) := by
  have hmem := (sortedMembers_perm h).mem_iff.1 hm
  obtain ⟨n, hn, heq⟩ := List.mem_map.1 hmem
  exact ⟨n, hn, heq.symm⟩

/-- A sorted value does not repeat a key. -/
theorem distinctKeys_sorted {v : Value} (h : v.DistinctKeys) : v.sorted.DistinctKeys := by
  induction v using Value.induction with
  | null => exact h
  | bool b => exact h
  | number n => exact h
  | text s => exact h
  | array items ih =>
    have hitems := ((Value.everywhere_array items).1 h).2
    rw [sorted_array]
    refine (Value.everywhere_array _).2 ⟨trivial, ?_⟩
    intro w hw
    obtain ⟨v, hv, rfl⟩ := List.mem_map.1 hw
    exact ih v hv (hitems v hv)
  | object ms ih =>
    obtain ⟨hkeys, hmembers⟩ := (Value.everywhere_object ms).1 h
    rw [sorted_object]
    refine (Value.everywhere_object _).2 ⟨nodup_keys_sortedMembers ms, ?_⟩
    intro m hm
    obtain ⟨n, hn, rfl⟩ := exists_of_mem_sortedMembers hkeys hm
    exact ih n hn (hmembers n hn)

/-- Sorting a sorted value changes nothing. -/
theorem sorted_sorted {v : Value} (h : v.DistinctKeys) : v.sorted.sorted = v.sorted := by
  induction v using Value.induction with
  | null => rfl
  | bool b => rfl
  | number n => rfl
  | text s => rfl
  | array items ih =>
    have hitems := ((Value.everywhere_array items).1 h).2
    rw [sorted_array, sorted_array, List.map_map]
    congr 1
    exact List.map_congr_left fun v hv => ih v hv (hitems v hv)
  | object ms ih =>
    obtain ⟨hkeys, hmembers⟩ := (Value.everywhere_object ms).1 h
    -- the values are sorted by now, and there is only one ascending order of the members
    have hvalues : sortedValues (sortedMembers ms []) = sortedMembers ms [] := by
      conv => rhs; rw [← List.map_id (sortedMembers ms [])]
      refine List.map_congr_left fun m hm => ?_
      obtain ⟨n, hn, rfl⟩ := exists_of_mem_sortedMembers hkeys hm
      rw [ih n hn (hmembers n hn)]
      rfl
    have hperm := sortedMembers_perm (nodup_keys_sortedMembers ms)
    rw [hvalues] at hperm
    rw [sorted_object, sorted_object]
    congr 1
    exact eq_of_perm_of_ascending hperm (ascending_sortedMembers _ List.Pairwise.nil)
      (ascending_sortedMembers ms List.Pairwise.nil)

/-! ## 4. Reordered values -/

namespace Value

/-- A value becomes another one by permuting members of objects in it. -/
inductive Reordered : Value → Value → Prop where
  | refl (v : Value) : Reordered v v
  | trans {u v w : Value} (first : Reordered u v) (second : Reordered v w) : Reordered u w
  | permuted {ms ns : List (String × Value)} (perm : ms.Perm ns) :
    Reordered (.object ms) (.object ns)
  | inItem {v w : Value} (inside : Reordered v w) (before after : List Value) :
    Reordered (.array (before ++ v :: after)) (.array (before ++ w :: after))
  | inMember {v w : Value} (inside : Reordered v w) (key : String)
    (before after : List (String × Value)) :
    Reordered (.object (before ++ (key, v) :: after)) (.object (before ++ (key, w) :: after))

/-- Reordering makes no key repeat, and a reordered value is the same once it is sorted. -/
theorem Reordered.distinctKeys_and_sorted_eq {v w : Value} (h : v.Reordered w)
    (hkeys : v.DistinctKeys) : w.DistinctKeys ∧ v.sorted = w.sorted := by
  induction h with
  | refl v => exact ⟨hkeys, rfl⟩
  | trans _ _ ih ih' =>
    obtain ⟨hkeys, heq⟩ := ih hkeys
    obtain ⟨hkeys, heq'⟩ := ih' hkeys
    exact ⟨hkeys, heq.trans heq'⟩
  | @permuted ms ns perm =>
    obtain ⟨hnodup, hmembers⟩ := (everywhere_object ms).1 hkeys
    have hnodup' : (ns.map Prod.fst).Nodup := (perm.map Prod.fst).nodup_iff.1 hnodup
    refine ⟨(everywhere_object ns).2 ⟨hnodup', fun m hm => hmembers m (perm.mem_iff.2 hm)⟩, ?_⟩
    rw [sorted_object, sorted_object, sortedMembers_eq_of_perm hnodup hnodup' (perm.map _)]
  | @inItem v w _ before after ih =>
    have hitems := ((everywhere_array _).1 hkeys).2
    have hv := ih (hitems v (by simp))
    refine ⟨(everywhere_array _).2 ⟨trivial, fun u hu => ?_⟩, ?_⟩
    · rcases List.mem_append.1 hu with hu | hu
      · exact hitems u (List.mem_append_left _ hu)
      · rcases List.mem_cons.1 hu with rfl | hu
        · exact hv.1
        · exact hitems u (List.mem_append_right _ (List.mem_cons_of_mem _ hu))
    · simp only [sorted_array, List.map_append, List.map_cons, hv.2]
  | @inMember v w _ key before after ih =>
    obtain ⟨hnodup, hmembers⟩ := (everywhere_object _).1 hkeys
    have hv := ih (hmembers (key, v) (by simp))
    have hnodup' : ((before ++ (key, w) :: after).map Prod.fst).Nodup := by
      simpa [DistinctKeysHere] using hnodup
    refine ⟨(everywhere_object _).2 ⟨hnodup', fun m hm => ?_⟩, ?_⟩
    · rcases List.mem_append.1 hm with hm | hm
      · exact hmembers m (List.mem_append_left _ hm)
      · rcases List.mem_cons.1 hm with rfl | hm
        · exact hv.1
        · exact hmembers m (List.mem_append_right _ (List.mem_cons_of_mem _ hm))
    -- the members keep their places, and only the one value differs before sorting
    · have hvalues : sortedValues (before ++ (key, v) :: after)
          = sortedValues (before ++ (key, w) :: after) := by simp [sortedValues, hv.2]
      rw [sorted_object, sorted_object, sortedMembers_eq, sortedMembers_eq, hvalues]

/-- No key comes twice in another order of the members. -/
theorem Reordered.distinctKeys {v w : Value} (h : v.Reordered w) (hkeys : v.DistinctKeys) :
    w.DistinctKeys :=
  (h.distinctKeys_and_sorted_eq hkeys).1

/-- A reordered value is the same once it is sorted. -/
theorem Reordered.sorted_eq {v w : Value} (h : v.Reordered w) (hkeys : v.DistinctKeys) :
    v.sorted = w.sorted :=
  (h.distinctKeys_and_sorted_eq hkeys).2

end Value

end Widgetry.Json
