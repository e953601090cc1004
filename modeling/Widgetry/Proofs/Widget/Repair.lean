import Mathlib.Data.Finset.Card
import Mathlib.Data.List.Forall2
import Widgetry.Proofs.Widget.Ids

/-!
Repair of ids, place by place. The first element of an id keeps it; every later one gets the
smallest suffix from two on that makes of it neither an id of the document nor one that repair gave
out before; and nothing else of the document changes (`repairIds_correct`).

Repair goes through the ids with a list of those given out. At each place the invariant `Progress`
holds of this list, as of every run of steps (`Progress.append`), and of the ids of the document it
has exactly those that have been passed (`Progress.mem_givenIds_iff`): what repair adds to them are
ids that the document does not have.
-/

namespace Widgetry

variable {present taken ids xs ys : List String} {id : String}

/-! ## 1. Runs of steps -/

theorem length_givenIds (present taken ids : List String) :
    (givenIds present taken ids).length = ids.length := by
  rw [givenIds, List.length_map, length_distinctIds]

namespace Progress

/-- What one step keeps true a run of steps keeps true. -/
theorem append (h : Progress present taken (xs ++ ys)) :
    Progress present ((givenIds present taken xs).reverse ++ taken) ys := by
  induction xs generalizing taken with
  | nil => exact h
  | cons x xs ih =>
    by_cases hx : x ∈ taken
    · rw [givenIds_of_mem hx, List.reverse_cons, List.append_assoc, List.singleton_append]
      exact ih (h.rename hx)
    · rw [givenIds_of_not_mem hx, List.reverse_cons, List.append_assoc, List.singleton_append]
      exact ih (h.keep hx)

/-- Of the ids of the document the ones that have been passed are given out. -/
theorem mem_givenIds_iff (h : Progress present taken (xs ++ ys)) (hid : id ∈ present) :
    id ∈ givenIds present taken xs ∨ id ∈ taken ↔ id ∈ xs ∨ id ∈ taken := by
  induction xs generalizing taken with
  | nil => simp [givenIds, distinctIds]
  | cons x xs ih =>
    by_cases hx : x ∈ taken
    · have hne : id ≠ freshId present taken x :=
        fun heq => h.freshId_not_mem hx (heq ▸ List.mem_append_left _ hid)
      have hrest := ih (h.rename hx)
      have hpassed : id = x → id ∈ taken := fun heq => heq ▸ hx
      simp only [List.mem_cons, hne, false_or] at hrest
      rw [givenIds_of_mem hx, List.mem_cons, List.mem_cons, or_iff_right hne, hrest]
      constructor
      · exact fun hmem => hmem.imp_left .inr
      · rintro ((heq | hmem) | hmem)
        · exact .inr (hpassed heq)
        · exact .inl hmem
        · exact .inr hmem
    · have hrest := ih (h.keep hx)
      simp only [List.mem_cons] at hrest
      rw [givenIds_of_not_mem hx, List.mem_cons, List.mem_cons, or_assoc, or_assoc, or_left_comm,
        hrest]
      exact or_left_comm

end Progress

theorem distinctIds_append (present taken xs ys : List String) :
    distinctIds present taken (xs ++ ys)
      = distinctIds present taken xs
        ++ distinctIds present ((givenIds present taken xs).reverse ++ taken) ys := by
  induction xs generalizing taken with
  | nil => rfl
  | cons x xs ih =>
    by_cases hx : x ∈ taken
    · rw [List.cons_append, distinctIds_of_mem hx, ih, givenIds_of_mem hx, distinctIds_of_mem hx]
      simp
    · rw [List.cons_append, distinctIds_of_not_mem hx, ih, givenIds_of_not_mem hx,
        distinctIds_of_not_mem hx]
      simp

/-! ## 2. Places -/

section Places

variable {i : Nat}

theorem eq_take_append_cons (h : ids[i]? = some id) :
    ids = ids.take i ++ id :: ids.drop (i + 1) := by
  obtain ⟨hi, rfl⟩ := List.getElem?_eq_some_iff.1 h
  rw [List.getElem_cons_drop, List.take_append_drop]

/-- What is given out before a place are the ids that repair gives to the places before it. -/
theorem take_givenIds (hi : i ≤ ids.length) :
    (givenIds present taken ids).take i = givenIds present taken (ids.take i) := by
  have hlength : (givenIds present taken (ids.take i)).length = i := by
    rw [length_givenIds, List.length_take]
    omega
  have happend := congrArg (List.map Prod.fst)
    (distinctIds_append present taken (ids.take i) (ids.drop i))
  rw [List.take_append_drop, List.map_append] at happend
  rw [givenIds, happend, ← givenIds, List.take_left' hlength]

theorem progress_at (h : ids[i]? = some id) :
    Progress ids (givenIds ids [] (ids.take i)).reverse (id :: ids.drop (i + 1)) := by
  have hstart : Progress ids [] (ids.take i ++ id :: ids.drop (i + 1)) := by
    rw [← eq_take_append_cons h]
    exact Progress.start ids
  simpa using hstart.append

theorem mem_givenIds_take_iff (hid : id ∈ ids) :
    id ∈ givenIds ids [] (ids.take i) ↔ id ∈ ids.take i := by
  have hstart : Progress ids [] (ids.take i ++ ids.drop i) := by
    rw [List.take_append_drop]
    exact Progress.start ids
  simpa using hstart.mem_givenIds_iff hid

/-- What repair does at a place depends on what it has given out before. -/
theorem getElem?_distinctIds (h : ids[i]? = some id) :
    (distinctIds ids [] ids)[i]?
      = (distinctIds ids (givenIds ids [] (ids.take i)).reverse (id :: ids.drop (i + 1))).head? := by
  have hi : i < ids.length := (List.getElem?_eq_some_iff.1 h).1
  have hlength : (distinctIds ids [] (ids.take i)).length = i := by
    rw [length_distinctIds, List.length_take]
    omega
  have happend := distinctIds_append ids [] (ids.take i) (id :: ids.drop (i + 1))
  rw [← eq_take_append_cons h, List.append_nil] at happend
  rw [happend, List.getElem?_append_right (by omega), hlength, Nat.sub_self, List.head?_eq_getElem?]

theorem getElem?_distinctIds_of_not_mem (h : ids[i]? = some id) (hnew : id ∉ ids.take i) :
    (distinctIds ids [] ids)[i]? = some (id, none) := by
  have hmem : id ∉ (givenIds ids [] (ids.take i)).reverse := by
    rwa [List.mem_reverse, mem_givenIds_take_iff (List.mem_of_getElem? h)]
  rw [getElem?_distinctIds h, distinctIds_of_not_mem hmem, List.head?_cons]

/-- The id at a place stands at an earlier place too: the element there is one to rename. -/
def Recurs (ids : List String) (i : Nat) : Prop :=
  ∃ id ∈ ids.take i, ids[i]? = some id

/-- A text is not free for the element at a place: it is an id of the document, or the one that an
earlier element was renamed to. -/
def Occupied (ids new : List String) (i : Nat) (text : String) : Prop :=
  text ∈ ids ∨ ∃ j, j < i ∧ Recurs ids j ∧ new[j]? = some text

/-- Not free are the ids of the document and all that repair has given out. -/
theorem occupied_iff {text : String} (hi : i ≤ ids.length) :
    Occupied ids (givenIds ids [] ids) i text
      ↔ text ∈ ids ∨ text ∈ givenIds ids [] (ids.take i) := by
  rw [Occupied, ← take_givenIds hi]
  constructor
  · rintro (hmem | ⟨j, hj, -, hnew⟩)
    · exact .inl hmem
    · exact .inr (List.mem_iff_getElem?.2 ⟨j, by rw [List.getElem?_take, if_pos hj, hnew]⟩)
  · rintro (hmem | hmem)
    · exact .inl hmem
    · obtain ⟨j, hnew⟩ := List.mem_iff_getElem?.1 hmem
      rw [List.getElem?_take, Option.ite_none_right_eq_some] at hnew
      obtain ⟨hj, hnew⟩ := hnew
      have hlt : j < ids.length := by omega
      by_cases hrecurs : ids[j] ∈ ids.take j
      · exact .inr ⟨j, hj, ⟨_, hrecurs, List.getElem?_eq_getElem hlt⟩, hnew⟩
      · -- the first element of an id keeps it
        have hkept := getElem?_distinctIds_of_not_mem (List.getElem?_eq_getElem hlt) hrecurs
        rw [givenIds, List.getElem?_map, hkept] at hnew
        obtain rfl : ids[j] = text := by simpa using hnew
        exact .inl (List.getElem_mem hlt)

/-- An element whose id was there before is renamed to the first suffixed form that is free. -/
theorem getElem?_distinctIds_of_mem (h : ids[i]? = some id) (hmem : id ∈ ids.take i) :
    ∃ n, 2 ≤ n ∧ n ≤ ids.length
      ∧ (distinctIds ids [] ids)[i]? = some (suffixed id n, some ⟨id, suffixed id n⟩)
      ∧ ¬ Occupied ids (givenIds ids [] ids) i (suffixed id n)
      ∧ ∀ m, 2 ≤ m → m < n → Occupied ids (givenIds ids [] ids) i (suffixed id m) := by
  have hi : i < ids.length := (List.getElem?_eq_some_iff.1 h).1
  have hgiven : id ∈ (givenIds ids [] (ids.take i)).reverse := by
    rwa [List.mem_reverse, mem_givenIds_take_iff (List.mem_of_getElem? h)]
  obtain ⟨m, h2, hm, hfree⟩ := (progress_at h).exists_free hgiven
  obtain ⟨n, hn, hnm, heq, hnew, hmin⟩ :=
    freeSuffix_eq h2 (show m < 2 + ids.length by omega) hfree
  have hused (text : String) : Occupied ids (givenIds ids [] ids) i text
      ↔ text ∈ ids ++ (givenIds ids [] (ids.take i)).reverse := by
    rw [occupied_iff hi.le, List.mem_append, List.mem_reverse]
  refine ⟨n, hn, by omega, ?_, mt (hused _).1 hnew, fun m hm hmn => (hused _).2 (hmin m hm hmn)⟩
  rw [getElem?_distinctIds h, distinctIds_of_mem hgiven, List.head?_cons, freshId, heq]

end Places

/-! ## 3. Renamed elements -/

/-- Every element is renamed but the first of each id. -/
theorem Progress.length_renamed (h : Progress present taken ids) (hids : ids ⊆ present) :
    ((distinctIds present taken ids).filterMap Prod.snd).length
      + (ids.toFinset \ taken.toFinset).card = ids.length := by
  induction ids generalizing taken with
  | nil => simp [distinctIds]
  | cons id ids ih =>
    have hrest : ids ⊆ present := fun x hx => hids (List.mem_cons_of_mem _ hx)
    by_cases hid : id ∈ taken
    · have hfresh : freshId present taken id ∉ ids := fun hmem =>
        h.freshId_not_mem hid (List.mem_append_left _ (hrest hmem))
      -- a renamed id was taken before, and its new name is none of those to come
      have hleft : (id :: ids).toFinset \ taken.toFinset
          = ids.toFinset \ (freshId present taken id :: taken).toFinset := by
        rw [List.toFinset_cons, List.toFinset_cons,
          Finset.insert_sdiff_of_mem _ (List.mem_toFinset.2 hid),
          Finset.sdiff_insert_of_notMem (mt List.mem_toFinset.1 hfresh)]
      have hcount := ih (h.rename hid) hrest
      rw [distinctIds_of_mem hid, List.filterMap_cons, hleft]
      simp only [List.length_cons]
      omega
    -- an id that is kept is one of those not taken, and is taken from here on
    · have hleft : (id :: ids).toFinset \ taken.toFinset
          = insert id (ids.toFinset \ (id :: taken).toFinset) := by
        ext x
        simp only [List.toFinset_cons, Finset.mem_sdiff, Finset.mem_insert, List.mem_toFinset]
        by_cases hx : x = id
        · simp [hx, hid]
        · simp [hx]
      have hnew : id ∉ ids.toFinset \ (id :: taken).toFinset := by simp
      have hcount := ih (h.keep hid) hrest
      rw [distinctIds_of_not_mem hid, List.filterMap_cons_none rfl, List.length_cons, hleft,
        Finset.card_insert_of_notMem hnew]
      omega

/-- Elements that are given new ids are the same otherwise. -/
theorem forall₂_zipWith_id {es : List Element} {fresh : List (String × Option Renaming)}
    (h : es.length = fresh.length) :
    List.Forall₂ (fun e e' => e' = { e with id := e'.id }) es
      (es.zipWith (fun e f => { e with id := f.1 }) fresh) := by
  induction es generalizing fresh with
  | nil => exact .nil
  | cons e es ih =>
    cases fresh with
    | nil => simp at h
    | cons f fs => exact .cons rfl (ih (by simpa using h))

namespace Description

/-- One description is the repair of another, with so many elements renamed. -/
structure RepairOf (d d' : Description) (renamed : Nat) : Prop where
  nodup : d'.ids.Nodup
  first : ∀ i id, d.ids[i]? = some id → id ∉ d.ids.take i → d'.ids[i]? = some id
  later : ∀ i id, d.ids[i]? = some id → id ∈ d.ids.take i →
    ∃ n, 2 ≤ n ∧ d'.ids[i]? = some (suffixed id n)
      ∧ ¬ Occupied d.ids d'.ids i (suffixed id n)
      ∧ ∀ m, 2 ≤ m → m < n → Occupied d.ids d'.ids i (suffixed id m)
  elements : List.Forall₂ (fun e e' => e' = { e with id := e'.id }) d.elements d'.elements
  others : d' = { d with elements := d'.elements }
  renamed : renamed + d.ids.toFinset.card = d.elements.length

theorem length_ids (d : Description) : d.ids.length = d.elements.length :=
  List.length_map ..

theorem getElem?_ids_repaired_of_not_mem {d : Description} {i : Nat} {id : String}
    (h : d.ids[i]? = some id) (hnew : id ∉ d.ids.take i) : d.repaired.ids[i]? = some id := by
  rw [ids_repaired, givenIds, List.getElem?_map, getElem?_distinctIds_of_not_mem h hnew]
  rfl

theorem repairOf_repaired (d : Description) : RepairOf d d.repaired d.repairIds.2.length where
  nodup := d.nodup_ids_repaired
  first i id h hnew := getElem?_ids_repaired_of_not_mem h hnew
  later i id h hmem := by
    obtain ⟨n, h2, -, hentry, hfree, hmin⟩ := getElem?_distinctIds_of_mem h hmem
    rw [ids_repaired]
    refine ⟨n, h2, ?_, hfree, hmin⟩
    rw [givenIds, List.getElem?_map, hentry]
    rfl
  elements := forall₂_zipWith_id (by rw [length_distinctIds, length_ids])
  others := rfl
  renamed := by
    have hcount := (Progress.start d.ids).length_renamed (List.Subset.refl _)
    rw [List.toFinset_nil, Finset.sdiff_empty] at hcount
    rw [← d.length_ids]
    exact hcount

/-- **Repair is correct, minimal, and changes nothing else.** The ids differ afterwards; the first
element of an id keeps it, and each later one gets the smallest suffix from two on that is free at
its place; elements and description are the same otherwise; renamed are all elements but one for
each different id; and repairing again does nothing. -/
theorem repairIds_correct (d : Description) :
    RepairOf d d.repaired d.repairIds.2.length ∧ d.repaired.repairIds = (d.repaired, []) :=
  ⟨d.repairOf_repaired, repairIds_of_nodup d.nodup_ids_repaired⟩

/-- Ids that look like suffixed ones: a later element's own id is not given away. -/
example :
    { blank .quiz "Quiz" with
        elements := ["q", "q", "q_2", "q", "q_2"].map fun id => .plain .input id id }.repaired.ids
      = ["q", "q_3", "q_2", "q_4", "q_2_2"] := by
  decide +kernel

end Description

end Widgetry
