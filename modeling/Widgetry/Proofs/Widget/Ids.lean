import Widgetry.Widget.Repair

/-!
Distinct ids. A description reports no repeated id exactly if its ids differ
(`duplicateIds_eq_nil_iff`), repair leaves ids that differ (`nodup_ids_repaired`), and where they
differ it changes nothing (`repairIds_of_nodup`).

Repair goes through the ids once, with a list of the ids given out so far. What it keeps true is
`Progress`: the ids given out differ, there is one for every element passed, and every id of the
document is given out or still ahead. So when an id has to be renamed there are at most as many ids
about as there are elements but one, and among the suffixes from two on one is free before the
number of elements is passed (`exists_free`).
-/

namespace Widgetry

/-! ## 1. Repeated ids -/

/-- Nothing is repeated exactly if all ids differ, also from those seen before. -/
theorem repeated_eq_nil_iff (seen ids : List String) :
    repeated seen [] ids = [] ↔ ids.Nodup ∧ ∀ id ∈ ids, id ∉ seen := by
  induction ids generalizing seen with
  | nil => simp [repeated]
  | cons id ids ih =>
    rw [repeated]
    by_cases h : id ∈ seen
    · simp [h]
    · rw [if_neg (by simpa using h), ih, List.nodup_cons]
      constructor
      · rintro ⟨hnodup, hseen⟩
        refine ⟨⟨fun hmem => hseen id hmem List.mem_cons_self, hnodup⟩, ?_⟩
        intro x hx
        rcases List.mem_cons.1 hx with rfl | hx
        · exact h
        · exact fun hs => hseen x hx (List.mem_cons_of_mem _ hs)
      · rintro ⟨⟨hnew, hnodup⟩, hseen⟩
        refine ⟨hnodup, fun x hx hs => ?_⟩
        rcases List.mem_cons.1 hs with rfl | hs
        · exact hnew hx
        · exact hseen x (List.mem_cons_of_mem _ hx) hs

/-- No id is reported as repeated exactly if the ids differ. -/
theorem Description.duplicateIds_eq_nil_iff (d : Description) :
    d.duplicateIds = [] ↔ d.ids.Nodup := by
  simp [duplicateIds, repeated_eq_nil_iff]

/-! ## 2. Suffixes -/

/-- Different numbers make different names. -/
theorem suffixed_injective (id : String) {m n : Nat} (h : suffixed id m = suffixed id n) :
    m = n := by
  have hchars : (id ++ "_" ++ toString m).toList = (id ++ "_" ++ toString n).toList :=
    congrArg String.toList h
  have hdigits : Nat.toDigits 10 m = Nat.toDigits 10 n := by
    simpa [String.toList_append] using hchars
  rw [← Nat.ofDigitChars_ten_toDigits (n := m), hdigits, Nat.ofDigitChars_ten_toDigits]

/-- A name with a suffix is another name. -/
theorem suffixed_ne (id : String) (n : Nat) : suffixed id n ≠ id := by
  intro h
  have hlength : (id ++ "_" ++ toString n).length = id.length := congrArg String.length h
  have hone : "_".length = 1 := by decide
  simp only [String.length_append] at hlength
  omega

/-- If one of the numbers to try is free, the search ends at the first one that is. -/
theorem freeSuffix_eq {used : List String} {id : String} {n tries m : Nat} (hn : n ≤ m)
    (hm : m < n + tries) (hfree : suffixed id m ∉ used) :
    ∃ k, n ≤ k ∧ k ≤ m ∧ freeSuffix used id n tries = suffixed id k ∧ suffixed id k ∉ used
      ∧ ∀ j, n ≤ j → j < k → suffixed id j ∈ used := by
  induction tries generalizing n with
  | zero => omega
  | succ tries ih =>
    rw [freeSuffix]
    by_cases h : suffixed id n ∈ used
    · have hne : n ≠ m := fun heq => hfree (heq ▸ h)
      obtain ⟨k, hk, hkm, heq, hnew, hmin⟩ := ih (n := n + 1) (by omega) (by omega)
      refine ⟨k, by omega, hkm, by rw [if_pos (by simpa using h), heq], hnew, fun j hj hjk => ?_⟩
      by_cases hjn : j = n
      · exact hjn ▸ h
      · exact hmin j (by omega) hjk
    · exact ⟨n, Nat.le_refl n, hn, if_neg (by simpa using h), h, fun j hj hjn => by omega⟩

/-! ## 3. One step of repair -/

section Repair

variable {present taken ids : List String} {id : String}

/-- The new id of an element whose id was given out before. -/
def freshId (present taken : List String) (id : String) : String :=
  freeSuffix (present ++ taken) id 2 present.length

/-- The ids that repair gives out. -/
def givenIds (present taken ids : List String) : List String :=
  (distinctIds present taken ids).map Prod.fst

theorem distinctIds_of_mem (h : id ∈ taken) :
    distinctIds present taken (id :: ids)
      = (freshId present taken id, some ⟨id, freshId present taken id⟩)
        :: distinctIds present (freshId present taken id :: taken) ids := by
  rw [distinctIds, if_pos (by simpa using h), freshId]

theorem distinctIds_of_not_mem (h : id ∉ taken) :
    distinctIds present taken (id :: ids)
      = (id, none) :: distinctIds present (id :: taken) ids := by
  rw [distinctIds, if_neg (by simpa using h)]

theorem givenIds_of_mem (h : id ∈ taken) :
    givenIds present taken (id :: ids)
      = freshId present taken id
        :: givenIds present (freshId present taken id :: taken) ids := by
  rw [givenIds, distinctIds_of_mem h, List.map_cons, givenIds]

theorem givenIds_of_not_mem (h : id ∉ taken) :
    givenIds present taken (id :: ids) = id :: givenIds present (id :: taken) ids := by
  rw [givenIds, distinctIds_of_not_mem h, List.map_cons, givenIds]

/-- Every id is given one id. -/
theorem length_distinctIds (present taken ids : List String) :
    (distinctIds present taken ids).length = ids.length := by
  induction ids generalizing taken with
  | nil => rfl
  | cons id ids ih =>
    by_cases hid : id ∈ taken
    · rw [distinctIds_of_mem hid, List.length_cons, ih, List.length_cons]
    · rw [distinctIds_of_not_mem hid, List.length_cons, ih, List.length_cons]

/-! ## 4. Runs of repair -/

/-- What repair keeps true: the ids given out differ, there are as many as elements passed, and the
ids of the document are given out or still ahead. -/
structure Progress (present taken ids : List String) : Prop where
  nodup : taken.Nodup
  length : taken.length + ids.length = present.length
  covered : present ⊆ taken ++ ids

/-- At the start all ids are still to come, and none is taken. -/
theorem Progress.start (present : List String) : Progress present [] present :=
  ⟨List.nodup_nil, by simp, by simp⟩

/-- An id that was given out before has a free suffix that is at most the number of elements. -/
theorem Progress.exists_free (h : Progress present taken (id :: ids)) (hid : id ∈ taken) :
    ∃ n, 2 ≤ n ∧ n ≤ present.length ∧ suffixed id n ∉ present ++ taken := by
  apply Classical.byContradiction
  intro hnone
  have hused : ∀ n, 2 ≤ n → n ≤ present.length → suffixed id n ∈ present ++ taken := by
    intro n h2 hn
    apply Classical.byContradiction
    exact fun hfree => hnone ⟨n, h2, hn, hfree⟩
  -- everything about is given out or strictly ahead, which is fewer than there are elements
  have hcovered : present ++ taken ⊆ taken ++ ids := by
    intro x hx
    rcases List.mem_append.1 hx with hx | hx
    · have := h.covered hx
      simp only [List.mem_append, List.mem_cons] at this ⊢
      rcases this with hx | rfl | hx
      · exact .inl hx
      · exact .inl hid
      · exact .inr hx
    · exact List.mem_append_left _ hx
  let forms := (List.range' 2 (present.length - 1)).map (suffixed id)
  have hnodup : (id :: forms).Nodup := by
    refine List.nodup_cons.2 ⟨fun hmem => ?_, ?_⟩
    · obtain ⟨n, -, hn⟩ := List.mem_map.1 hmem
      exact suffixed_ne id n hn
    · have hrange : (List.range' 2 (present.length - 1)).Nodup := List.nodup_range'
      refine List.pairwise_map.2 (hrange.imp ?_)
      exact fun hne heq => hne (suffixed_injective id heq)
  have hsubset : id :: forms ⊆ taken ++ ids := by
    intro x hx
    rcases List.mem_cons.1 hx with rfl | hx
    · exact List.mem_append_left _ hid
    · obtain ⟨n, hn, rfl⟩ := List.mem_map.1 hx
      rw [List.mem_range'_1] at hn
      exact hcovered (hused n hn.1 (by omega))
  have hle := hnodup.length_le_of_subset hsubset
  have hlength := h.length
  simp only [forms, List.length_cons, List.length_map, List.length_range',
    List.length_append] at hle hlength
  omega

/-- The suffix that repair finds is new. -/
theorem Progress.freshId_not_mem (h : Progress present taken (id :: ids)) (hid : id ∈ taken) :
    freshId present taken id ∉ present ++ taken := by
  obtain ⟨m, h2, hm, hfree⟩ := h.exists_free hid
  obtain ⟨k, -, -, heq, hnew, -⟩ :=
    freeSuffix_eq h2 (show m < 2 + present.length by omega) hfree
  rw [freshId, heq]
  exact hnew

/-- Whatever is given out to an element, as long as it is new: the ids of the document stay given
out or ahead if this one was, or is what is given out. -/
theorem Progress.give {given : String} (h : Progress present taken (id :: ids))
    (hnew : given ∉ taken) (hid : id = given ∨ id ∈ taken) :
    Progress present (given :: taken) ids where
  nodup := List.nodup_cons.2 ⟨hnew, h.nodup⟩
  length := by simpa [Nat.add_right_comm, Nat.add_assoc] using h.length
  covered x hx := by
    have := h.covered hx
    simp only [List.cons_append, List.mem_cons, List.mem_append] at this ⊢
    rcases this with hx | rfl | hx
    · exact .inr (.inl hx)
    · exact hid.imp_right .inl
    · exact .inr (.inr hx)

/-- An id that is not taken is kept. -/
theorem Progress.keep (h : Progress present taken (id :: ids)) (hid : id ∉ taken) :
    Progress present (id :: taken) ids :=
  h.give hid (.inl rfl)

/-- An id that is taken is renamed, to a name that is neither taken nor still to come. -/
theorem Progress.rename (h : Progress present taken (id :: ids)) (hid : id ∈ taken) :
    Progress present (freshId present taken id :: taken) ids :=
  h.give (fun hmem => h.freshId_not_mem hid (List.mem_append_right _ hmem)) (.inr hid)

/-- The ids that repair gives out differ from each other and from those given out before. -/
theorem Progress.nodup_givenIds (h : Progress present taken ids) :
    (givenIds present taken ids).Nodup ∧ ∀ id ∈ givenIds present taken ids, id ∉ taken := by
  induction ids generalizing taken with
  | nil => simp [givenIds, distinctIds]
  | cons id ids ih =>
    -- one id is given out and then the rest, whatever the first one is
    have step {given : String} (hnext : Progress present (given :: taken) ids) :
        (given :: givenIds present (given :: taken) ids).Nodup
          ∧ ∀ x ∈ given :: givenIds present (given :: taken) ids, x ∉ taken := by
      obtain ⟨hnodup, hnew⟩ := ih hnext
      refine ⟨List.nodup_cons.2 ⟨fun hmem => hnew _ hmem List.mem_cons_self, hnodup⟩, ?_⟩
      intro x hx
      rcases List.mem_cons.1 hx with rfl | hx
      · exact (List.nodup_cons.1 hnext.nodup).1
      · exact fun ht => hnew x hx (List.mem_cons_of_mem _ ht)
    by_cases hid : id ∈ taken
    · rw [givenIds_of_mem hid]
      exact step (h.rename hid)
    · rw [givenIds_of_not_mem hid]
      exact step (h.keep hid)

end Repair

/-- Elements that are given new ids have these. -/
theorem map_id_zipWith {es : List Element} {fresh : List (String × Option Renaming)}
    (h : es.length = fresh.length) :
    (es.zipWith (fun e f => { e with id := f.1 }) fresh).map (·.id) = fresh.map Prod.fst := by
  induction es generalizing fresh with
  | nil =>
    cases fresh with
    | nil => rfl
    | cons f fs => simp at h
  | cons e es ih =>
    cases fresh with
    | nil => simp at h
    | cons f fs =>
      have hrest : es.length = fs.length := by simpa using h
      simp only [List.zipWith_cons_cons, List.map_cons, ih hrest]

namespace Description

/-- The ids after repair are the ones that repair gave out. -/
theorem ids_repaired (d : Description) : d.repaired.ids = givenIds d.ids [] d.ids := by
  have hlength : d.elements.length = (distinctIds d.ids [] d.ids).length := by
    simp [length_distinctIds, ids]
  exact map_id_zipWith hlength

/-- Repair leaves ids that differ. -/
theorem nodup_ids_repaired (d : Description) : d.repaired.ids.Nodup := by
  rw [ids_repaired]
  exact (Progress.start d.ids).nodup_givenIds.1

end Description

/-! ## 5. Ids that differ already -/

/-- Ids that differ from each other and from those given out before are given out as they are. -/
theorem distinctIds_of_nodup {present taken ids : List String} (h : ids.Nodup)
    (hnew : ∀ id ∈ ids, id ∉ taken) :
    distinctIds present taken ids = ids.map fun id => (id, none) := by
  induction ids generalizing taken with
  | nil => rfl
  | cons id ids ih =>
    obtain ⟨hid, hids⟩ := List.nodup_cons.1 h
    obtain ⟨hidnew, hidsnew⟩ := List.forall_mem_cons.1 hnew
    have hrest : ∀ x ∈ ids, x ∉ id :: taken := by
      intro x hx hmem
      rcases List.mem_cons.1 hmem with rfl | hmem
      · exact hid hx
      · exact hidsnew x hx hmem
    rw [distinctIds_of_not_mem hidnew, ih hids hrest, List.map_cons]

/-- Elements that are given their own ids stay as they are. -/
theorem zipWith_own_ids (es : List Element) :
    es.zipWith (fun e (f : String × Option Renaming) => { e with id := f.1 })
      (es.map fun e => (e.id, none)) = es := by
  rw [List.zipWith_map_right, List.zipWith_self]
  exact List.map_id' es

namespace Description

/-- Where the ids differ there is nothing to repair. -/
theorem repairIds_of_nodup {d : Description} (h : d.ids.Nodup) : d.repairIds = (d, []) := by
  have hkept : distinctIds d.ids [] d.ids = d.elements.map fun e => (e.id, none) := by
    rw [distinctIds_of_nodup h fun _ _ => List.not_mem_nil, ids, List.map_map]
    rfl
  rw [repairIds, hkept, zipWith_own_ids, List.filterMap_map]
  simp

/-- There is nothing to repair where all ids differ. -/
theorem repaired_of_nodup {d : Description} (h : d.ids.Nodup) : d.repaired = d := by
  rw [repaired, repairIds_of_nodup h]

end Description

end Widgetry
