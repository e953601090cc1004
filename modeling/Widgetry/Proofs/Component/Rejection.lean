import Mathlib.Data.List.Nodup
import Widgetry.Proofs.Component.Emission
import Widgetry.Proofs.Widget.Remaining

/-!
Descriptions without a component. A description is rejected exactly if two of its elements have one
id, and the error names the id that is the first to be used for the second time (`emit_rejects`).
This is the first repeated id among the issues of the description, and after repair there is none.

Of the ids that are used again only the first one counts, and they are reported in the order in
which they are used for the second time. So the head of that report stands at the smallest of these
places (`head?_duplicateIds_eq_some_iff`).
-/

namespace Widgetry

namespace Description

variable {d : Description} {id : String}

/-- Two elements of a description have one id. -/
def SharesId (d : Description) : Prop :=
  ∃ (i j : Nat) (e f : Element),
    i < j ∧ d.elements[i]? = some e ∧ d.elements[j]? = some f ∧ e.id = f.id

theorem nodup_ids_iff (d : Description) : d.ids.Nodup ↔ ¬ d.SharesId := by
  rw [List.nodup_iff_getElem?_ne_getElem?]
  simp only [ids, List.getElem?_map, List.length_map]
  constructor
  · rintro hne ⟨i, j, e, f, hij, he, hf, hid⟩
    have hj : j < d.elements.length := (List.getElem?_eq_some_iff.1 hf).1
    exact hne i j hij hj (by rw [he, hf, Option.map_some, Option.map_some, hid])
  · intro hshared i j hij hj heq
    have hi : i < d.elements.length := by omega
    refine hshared ⟨i, j, d.elements[i], d.elements[j], hij, List.getElem?_eq_getElem hi,
      List.getElem?_eq_getElem hj, ?_⟩
    simpa [List.getElem?_eq_getElem hi, List.getElem?_eq_getElem hj] using heq

/-- Nothing stands for the second time before the id that is reported first. -/
theorem le_of_duplicateIds_eq_cons {rest : List String} {x : String} {i j : Nat}
    (h : d.duplicateIds = id :: rest) (hi : SecondAt d.ids id i) (hj : SecondAt d.ids x j) :
    i ≤ j := by
  have hx : x ∈ id :: rest := h ▸ mem_duplicateIds_iff.2 ⟨j, hj⟩
  have horder := d.pairwise_duplicateIds
  rw [h] at horder
  rcases List.mem_cons.1 hx with rfl | hx
  · exact (hi.unique hj).le
  · obtain ⟨i', j', hlt, hi', hj'⟩ := List.rel_of_pairwise_cons horder hx
    have := hi.unique hi'
    have := hj.unique hj'
    omega

/-- The id reported first is the one that stands for the second time before all others do. -/
theorem head?_duplicateIds_eq_some_iff :
    d.duplicateIds.head? = some id
      ↔ ∃ i, SecondAt d.ids id i ∧ ∀ x j, SecondAt d.ids x j → i ≤ j := by
  constructor
  · intro hhead
    obtain ⟨rest, hrest⟩ := List.head?_eq_some_iff.1 hhead
    obtain ⟨i, hi⟩ := mem_duplicateIds_iff.1 (hrest ▸ List.mem_cons_self)
    exact ⟨i, hi, fun x j hj => le_of_duplicateIds_eq_cons hrest hi hj⟩
  · rintro ⟨i, hi, hmin⟩
    cases hdup : d.duplicateIds with
    | nil =>
      have hmem : id ∈ d.duplicateIds := mem_duplicateIds_iff.2 ⟨i, hi⟩
      simp [hdup] at hmem
    | cons x rest =>
      obtain ⟨j, hj⟩ := mem_duplicateIds_iff.1 (hdup ▸ List.mem_cons_self)
      have hij : i = j := Nat.le_antisymm (hmin x j hj) (le_of_duplicateIds_eq_cons hdup hj hi)
      -- at one place stands one id
      have hx : some x = some id := by rw [← hj.here, ← hij, hi.here]
      exact hx

/-- The first repeated id among the issues is the one that is reported first. -/
theorem find?_isDuplicate_issues (d : Description) :
    d.issues.find? Issue.isDuplicate = d.duplicateIds.head?.map .duplicateElementId := by
  have htitle : (if Text.isBlankText d.title = true then [Issue.emptyTitle] else []).find?
      Issue.isDuplicate = none := by
    split <;> rfl
  have hplaces : ((blankPlaces 0 d.ids).map Issue.emptyElementId).find? Issue.isDuplicate
      = none := by
    simp [Issue.isDuplicate]
  rw [issues, List.find?_append, List.find?_append, htitle, hplaces]
  cases d.duplicateIds <;> rfl

end Description

namespace Component

open Description (SharesId)

/-- Emission ends with the id that is reported first, or else with a component. -/
theorem emit_eq (d : Description) :
    emit d = match d.duplicateIds.head? with
      | some id => .error (.duplicateElementId id)
      | none => .ok (layout d).source := by
  rw [emit, Layout.ofDescription]
  cases d.duplicateIds <;> rfl

theorem emit_eq_error_iff {d : Description} {e : Error} :
    emit d = .error e ↔ ∃ id, e = .duplicateElementId id ∧ d.duplicateIds.head? = some id := by
  rw [emit_eq]
  cases hhead : d.duplicateIds.head? with
  | none => simp
  | some id => simp [eq_comm]

/-- **Rejected are exactly the descriptions in which an id is shared.** The error names the id whose
second place comes before that of every other id, which is the first repeated id among the issues;
and a repaired description is never rejected. -/
theorem emit_rejects (d : Description) :
    ((∃ e, emit d = .error e) ↔ SharesId d)
      ∧ (∀ e, emit d = .error e ↔ ∃ id i, e = .duplicateElementId id
          ∧ SecondAt d.ids id i ∧ ∀ x j, SecondAt d.ids x j → i ≤ j)
      ∧ (∀ id, emit d = .error (.duplicateElementId id)
          ↔ d.issues.find? Issue.isDuplicate = some (.duplicateElementId id))
      ∧ ∃ source, emit d.repaired = .ok source := by
  refine ⟨?_, fun e => ?_, fun id => ?_, _, emit_repaired d⟩
  · have hnodup : d.duplicateIds = [] ↔ ¬ SharesId d :=
      d.duplicateIds_eq_nil_iff.trans d.nodup_ids_iff
    simp only [emit_eq_error_iff]
    constructor
    · rintro ⟨e, id, -, hhead⟩
      apply Classical.byContradiction
      intro hshared
      simp [hnodup.2 hshared] at hhead
    · intro hshared
      obtain ⟨id, rest, hcons⟩ := List.exists_cons_of_ne_nil fun hnil => hnodup.1 hnil hshared
      exact ⟨_, id, rfl, by rw [hcons, List.head?_cons]⟩
  · simp only [emit_eq_error_iff, Description.head?_duplicateIds_eq_some_iff,
      exists_and_left]
  · rw [emit_eq_error_iff, Description.find?_isDuplicate_issues, Option.map_eq_some_iff]
    simp [and_comm, eq_comm]

/-- Of ids whose repetitions interleave the one is named that is the first to come back. -/
example :
    emit { Description.blank .form "Form" with
        elements := ["a", "b", "c", "b", "a", "b"].map fun id => .plain .input id id }
      = .error (.duplicateElementId "b") := by
  decide +kernel

end Component

end Widgetry
