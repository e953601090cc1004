import Mathlib.Data.List.Sort
import Widgetry.Proofs.Widget.Issues
import Widgetry.Proofs.Widget.Repair

/-!
What repair leaves of the issues. Repair removes the repeated ids, keeps a blank title, and of the
blank ids it keeps those that are there for the first time: a blank id that is repeated gets a
suffix, which is not blank. So no issue is new, those left are in their order, and there are renamed
elements exactly where an id was repeated (`issues_repaired`).

The issues come sort by sort, so each clause is about one sort only. For blank ids the places have
to be followed through the repair: a place that is reported afterwards was reported before, since
repair keeps the first element of an id and gives all others a suffix.
-/

namespace Widgetry

open Text (trim isBlank)

/-! ## 1. Issues by their sort -/

/-- Whether an issue is a repeated id. -/
def Issue.isDuplicate : Issue → Bool
  | .duplicateElementId _ => true
  | _ => false

namespace Description

variable {d : Description}

theorem emptyTitle_mem_issues_iff : .emptyTitle ∈ d.issues ↔ trim d.title.toList = [] := by
  simp [issues, Text.isBlankText_iff]

theorem emptyElementId_mem_issues_iff {i : Nat} :
    .emptyElementId i ∈ d.issues ↔ i ∈ blankPlaces 0 d.ids := by
  simp [issues]

theorem duplicateElementId_mem_issues_iff {id : String} :
    .duplicateElementId id ∈ d.issues ↔ id ∈ d.duplicateIds := by
  simp [issues]

theorem countP_isDuplicate_issues (d : Description) :
    d.issues.countP Issue.isDuplicate = d.duplicateIds.length := by
  have htitle : (if Text.isBlankText d.title = true then [Issue.emptyTitle] else []).countP
      Issue.isDuplicate = 0 := by
    split <;> rfl
  rw [issues, List.countP_append, List.countP_append, htitle, List.countP_map, List.countP_map]
  simp [Function.comp_def, Issue.isDuplicate]

/-! ## 2. Blank ids -/

theorem trim_suffixed_ne_nil (id : String) (n : Nat) : trim (suffixed id n).toList ≠ [] := by
  intro h
  have hmem : '_' ∈ (suffixed id n).toList := by simp [suffixed, String.toList_append]
  exact absurd (Text.trim_eq_nil_iff.1 h '_' hmem) (by decide)

/-- After repair those ids are blank that were so and are there for the first time. -/
theorem mem_blankPlaces_repaired_iff {i : Nat} :
    i ∈ blankPlaces 0 d.repaired.ids
      ↔ ∃ id, d.ids[i]? = some id ∧ trim id.toList = [] ∧ id ∉ d.ids.take i := by
  rw [mem_blankPlaces_iff]
  constructor
  · rintro ⟨id', hid', hblank⟩
    have hlength : d.repaired.ids.length = d.ids.length := by
      rw [ids_repaired, length_givenIds]
    have hi : i < d.ids.length := hlength ▸ (List.getElem?_eq_some_iff.1 hid').1
    have hid : d.ids[i]? = some d.ids[i] := List.getElem?_eq_getElem hi
    have hnew : d.ids[i] ∉ d.ids.take i := by
      intro hmem
      obtain ⟨n, -, hn, -⟩ := d.repairOf_repaired.later i _ hid hmem
      rw [hid', Option.some.injEq] at hn
      exact trim_suffixed_ne_nil _ n (hn ▸ hblank)
    rw [getElem?_ids_repaired_of_not_mem hid hnew, Option.some.injEq] at hid'
    exact ⟨d.ids[i], hid, hid' ▸ hblank, hnew⟩
  · rintro ⟨id, hid, hblank, hnew⟩
    exact ⟨id, getElem?_ids_repaired_of_not_mem hid hnew, hblank⟩

theorem blankPlaces_repaired_sublist (d : Description) :
    (blankPlaces 0 d.repaired.ids).Sublist (blankPlaces 0 d.ids) := by
  have hsubset : blankPlaces 0 d.repaired.ids ⊆ blankPlaces 0 d.ids := by
    intro i hi
    obtain ⟨id, hid, hblank, -⟩ := mem_blankPlaces_repaired_iff.1 hi
    exact mem_blankPlaces_iff.2 ⟨id, hid, hblank⟩
  have hascending := pairwise_blankPlaces d.repaired.ids
  have hnodup : (blankPlaces 0 d.repaired.ids).Nodup := hascending.imp Nat.ne_of_lt
  exact List.sublist_of_subperm_of_pairwise (hnodup.subperm hsubset) hascending
    (pairwise_blankPlaces d.ids)

theorem duplicateIds_repaired (d : Description) : d.repaired.duplicateIds = [] :=
  d.repaired.duplicateIds_eq_nil_iff.2 d.nodup_ids_repaired

/-! ## 3. Renamed elements -/

/-- Of every repeated id an element is renamed. -/
theorem exists_renaming {id : String} (h : id ∈ d.duplicateIds) :
    ∃ after, (⟨id, after⟩ : Renaming) ∈ d.repairIds.2 := by
  obtain ⟨i, hi⟩ := mem_duplicateIds_iff.1 h
  have hmem : id ∈ d.ids.take i := List.count_pos_iff.1 (by have := hi.before; omega)
  obtain ⟨n, -, -, hentry, -⟩ := getElem?_distinctIds_of_mem hi.here hmem
  exact ⟨suffixed id n, List.mem_filterMap.2 ⟨_, List.mem_of_getElem? hentry, rfl⟩⟩

theorem length_duplicateIds_le (d : Description) :
    d.duplicateIds.length ≤ d.repairIds.2.length := by
  have hsubset : d.duplicateIds ⊆ d.repairIds.2.map (·.before) := by
    intro id hid
    obtain ⟨after, hmem⟩ := exists_renaming hid
    exact List.mem_map.2 ⟨_, hmem, rfl⟩
  have hle := d.nodup_duplicateIds.length_le_of_subset hsubset
  rwa [List.length_map] at hle

/-- Elements are renamed exactly where an id is repeated. -/
theorem length_renamed_pos_iff : 0 < d.repairIds.2.length ↔ ∃ id, id ∈ d.duplicateIds := by
  constructor
  · intro hpos
    apply Classical.byContradiction
    intro hnone
    have hnil : d.duplicateIds = [] :=
      List.eq_nil_iff_forall_not_mem.2 fun id hid => hnone ⟨id, hid⟩
    rw [repairIds_of_nodup (d.duplicateIds_eq_nil_iff.1 hnil)] at hpos
    exact absurd hpos (Nat.lt_irrefl 0)
  · rintro ⟨id, hid⟩
    have hpos := List.length_pos_of_mem hid
    have hle := d.length_duplicateIds_le
    omega

/-! ## 4. What is left -/

/-- **Repair removes issues and adds none.** Afterwards no id is repeated; the title is blank if it
was; blank are the ids that were so and whose very text is at no earlier place; and what is left of
the issues is in the order in which it was. Elements are renamed exactly if an id is repeated, and
not fewer than there are such ids. -/
theorem issues_repaired (d : Description) :
    (∀ id, .duplicateElementId id ∉ d.repaired.issues)
      ∧ (.emptyTitle ∈ d.repaired.issues ↔ .emptyTitle ∈ d.issues)
      ∧ (∀ i, .emptyElementId i ∈ d.repaired.issues
          ↔ ∃ id, d.ids[i]? = some id ∧ trim id.toList = [] ∧ id ∉ d.ids.take i)
      ∧ d.repaired.issues.Sublist d.issues
      ∧ (0 < d.repairIds.2.length ↔ ∃ id, .duplicateElementId id ∈ d.issues)
      ∧ d.issues.countP Issue.isDuplicate ≤ d.repairIds.2.length := by
  have htitle : d.repaired.title = d.title := rfl
  refine ⟨fun id => ?_, ?_, fun i => ?_, ?_, ?_, ?_⟩
  · rw [duplicateElementId_mem_issues_iff, duplicateIds_repaired]
    exact List.not_mem_nil
  · rw [emptyTitle_mem_issues_iff, emptyTitle_mem_issues_iff, htitle]
  · rw [emptyElementId_mem_issues_iff, mem_blankPlaces_repaired_iff]
  · rw [issues, issues, htitle, duplicateIds_repaired, List.map_nil, List.append_nil]
    exact (((d.blankPlaces_repaired_sublist.map _).append_left _).trans
      (List.sublist_append_left _ _))
  · simp only [duplicateElementId_mem_issues_iff, length_renamed_pos_iff]
  · rw [countP_isDuplicate_issues]
    exact d.length_duplicateIds_le

/-- A blank id that is repeated is blank only once afterwards, and another blank text is another
id. -/
example :
    let d : Description :=
      { blank .form "Form" with elements := [" ", "", " ", "a"].map fun id => .plain .input id id }
    d.issues = [.emptyElementId 0, .emptyElementId 1, .emptyElementId 2, .duplicateElementId " "]
      ∧ d.repaired.issues = [.emptyElementId 0, .emptyElementId 1] := by
  decide +kernel

end Description

end Widgetry
