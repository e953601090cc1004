import Mathlib.Data.List.Induction
import Widgetry.Proofs.Widget.Ids

/-!
Reported issues. What is reported of a description are exactly its violated invariants, in the order
of their sorts: the blank title, the blank ids by their places, and each id that is used more than
once, in the order in which ids are used for the second time (`issues_report`).

Both passes over the ids are filters of the ids with their places. For the pass that looks for
repetitions this rests on what its two lists say of the ids passed so far (`Scanned`): the one has
the ids that were there, the other those that were there twice.
-/

namespace Widgetry

open Text (trim isBlankText)

/-! ## 1. Texts with their places -/

theorem pairwise_zipIdx {α : Type} (xs : List α) (start : Nat) :
    (xs.zipIdx start).Pairwise fun p q => p.2 < q.2 := by
  apply List.pairwise_map.1
  rw [List.zipIdx_map_snd]
  exact List.pairwise_lt_range' 1

/-- Blank texts are found by going through all texts with their places. -/
theorem blankPlaces_eq (start : Nat) (xs : List String) :
    blankPlaces start xs
      = (xs.zipIdx start).filterMap fun p => if isBlankText p.1 then some p.2 else none := by
  induction xs generalizing start with
  | nil => rfl
  | cons x xs ih =>
    rw [blankPlaces, List.zipIdx_cons, ih]
    by_cases h : isBlankText x = true <;> simp [h]

/-- Blank ids are reported in their order. -/
theorem pairwise_blankPlaces (xs : List String) : (blankPlaces 0 xs).Pairwise (· < ·) := by
  rw [blankPlaces_eq]
  refine (pairwise_zipIdx xs 0).filterMap _ ?_
  rintro ⟨x, i⟩ ⟨y, j⟩ hij i' hi j' hj
  simp only [Option.ite_none_right_eq_some, Option.some.injEq] at hi hj
  omega

/-- A place is reported exactly if its id is blank. -/
theorem mem_blankPlaces_iff {xs : List String} {i : Nat} :
    i ∈ blankPlaces 0 xs ↔ ∃ x, xs[i]? = some x ∧ trim x.toList = [] := by
  rw [blankPlaces_eq, List.mem_filterMap]
  constructor
  · rintro ⟨⟨x, j⟩, hmem, hx⟩
    simp only [Option.ite_none_right_eq_some, Option.some.injEq] at hx
    obtain ⟨hblank, rfl⟩ := hx
    exact ⟨x, List.mk_mem_zipIdx_iff_getElem?.1 hmem, Text.isBlankText_iff.1 hblank⟩
  · rintro ⟨x, hx, hblank⟩
    exact ⟨(x, i), List.mk_mem_zipIdx_iff_getElem?.2 hx, by simp [Text.isBlankText_iff.2 hblank]⟩

/-! ## 2. Second occurrences -/

/-- A text stands at a place for the second time. -/
structure SecondAt (xs : List String) (x : String) (i : Nat) : Prop where
  here : xs[i]? = some x
  before : (xs.take i).count x = 1

namespace SecondAt

variable {xs ys : List String} {x : String} {i j : Nat}

/-- Up to there an id has been used twice. -/
theorem count_take_succ (h : SecondAt xs x i) : (xs.take (i + 1)).count x = 2 := by
  rw [List.take_add_one, List.count_append, h.before, h.here]
  simp

/-- There is only one second time. -/
theorem unique (hi : SecondAt xs x i) (hj : SecondAt xs x j) : i = j := by
  -- before the later of two places the text would be there twice
  have not_lt {i j : Nat} (hi : SecondAt xs x i) (hj : SecondAt xs x j) : ¬ i < j := by
    intro hlt
    have hle : (xs.take (i + 1)).count x ≤ (xs.take j).count x :=
      (List.take_sublist_take_left (l := xs) (show i + 1 ≤ j by omega)).count_le x
    have htwo := hi.count_take_succ
    have hone := hj.before
    omega
  have := not_lt hi hj
  have := not_lt hj hi
  omega

/-- What comes later does not change where an id was used for the second time. -/
theorem append (h : SecondAt xs x i) (ys : List String) : SecondAt (xs ++ ys) x i := by
  have hlt : i < xs.length := (List.getElem?_eq_some_iff.1 h.here).1
  constructor
  · rw [List.getElem?_append_left hlt, h.here]
  · rw [List.take_append_of_le_length (by omega), h.before]

end SecondAt

/-- A text stands at some place for the second time exactly if it stands at two places or more. -/
theorem exists_secondAt_iff {xs : List String} {x : String} :
    (∃ i, SecondAt xs x i) ↔ 2 ≤ xs.count x := by
  constructor
  · rintro ⟨i, h⟩
    have hle := (List.take_sublist (i + 1) xs).count_le x
    have htwo := h.count_take_succ
    omega
  · intro h
    -- by induction from the end: either there are two before the last text, or the last is the
    -- second
    induction xs using List.reverseRecOn with
    | nil => simp at h
    | append_singleton xs y ih =>
      by_cases htwo : 2 ≤ xs.count x
      · obtain ⟨i, hi⟩ := ih htwo
        exact ⟨i, hi.append [y]⟩
      · have hxy : y = x := by
          apply Classical.byContradiction
          intro hne
          rw [List.count_append, List.count_singleton, if_neg (by simpa using hne)] at h
          exact htwo h
        subst hxy
        refine ⟨xs.length, by simp, ?_⟩
        rw [List.count_append, List.count_singleton_self] at h
        rw [List.take_left]
        omega

/-! ## 3. Repeated texts -/

/-- What the two lists of the pass for repetitions say of the texts passed so far. -/
structure Scanned (past seen reported : List String) : Prop where
  seen_iff : ∀ x, x ∈ seen ↔ x ∈ past
  reported_iff : ∀ x, x ∈ reported ↔ 2 ≤ past.count x

namespace Scanned

variable {past seen reported : List String} {x : String}

theorem start : Scanned [] [] [] :=
  ⟨by simp, by simp⟩

theorem count_eq_zero (h : Scanned past seen reported) (hx : x ∉ seen) : past.count x = 0 :=
  List.count_eq_zero.2 (mt (h.seen_iff x).2 hx)

/-- An id that has been seen but not reported was used once. -/
theorem count_eq_one (h : Scanned past seen reported) (hx : x ∈ seen) (hnew : x ∉ reported) :
    past.count x = 1 := by
  have hpos : 0 < past.count x := List.count_pos_iff.2 ((h.seen_iff x).1 hx)
  have hle : ¬ 2 ≤ past.count x := mt (h.reported_iff x).2 hnew
  omega

/-- A text that is there for the first time has been seen afterwards. -/
theorem first (h : Scanned past seen reported) (hx : x ∉ seen) :
    Scanned (past ++ [x]) (x :: seen) reported where
  seen_iff y := by
    rw [List.mem_cons, List.mem_append, List.mem_singleton, h.seen_iff, or_comm]
  reported_iff y := by
    have hzero := h.count_eq_zero hx
    rw [h.reported_iff, List.count_append, List.count_singleton]
    by_cases hy : x = y
    · subst hy
      simp [hzero]
    · simp [hy]

/-- A text that is there for the second time is reported. -/
theorem second (h : Scanned past seen reported) (hx : x ∈ seen) (hnew : x ∉ reported) :
    Scanned (past ++ [x]) seen (x :: reported) where
  seen_iff y := by
    rw [h.seen_iff, List.mem_append, List.mem_singleton]
    exact ⟨.inl, fun hy => hy.elim id fun heq => heq ▸ (h.seen_iff x).1 hx⟩
  reported_iff y := by
    have hone := h.count_eq_one hx hnew
    rw [List.mem_cons, h.reported_iff, List.count_append, List.count_singleton]
    by_cases hy : x = y
    · subst hy
      simp [hone]
    · simp [hy, Ne.symm hy]

/-- After that it makes no difference. -/
theorem again (h : Scanned past seen reported) (hx : x ∈ reported) :
    Scanned (past ++ [x]) seen reported where
  seen_iff y := by
    have hmem : x ∈ past := by
      have hcount := (h.reported_iff x).1 hx
      exact List.count_pos_iff.1 (by omega)
    rw [h.seen_iff, List.mem_append, List.mem_singleton]
    exact ⟨.inl, fun hy => hy.elim id fun heq => heq ▸ hmem⟩
  reported_iff y := by
    have hcount := (h.reported_iff x).1 hx
    rw [h.reported_iff, List.count_append, List.count_singleton]
    by_cases hy : x = y
    · subst hy
      simp only [beq_self_eq_true, if_true]
      omega
    · simp [hy]

/-- Repeated texts are found by going through all texts with their places: reported are those that
were there once before. -/
theorem repeated_eq (h : Scanned past seen reported) (xs : List String) :
    repeated seen reported xs
      = (xs.zipIdx past.length).filterMap fun p =>
          if ((past ++ xs).take p.2).count p.1 = 1 then some p.1 else none := by
  induction xs generalizing past seen reported with
  | nil => rfl
  | cons x xs ih =>
    have hpast : (past ++ x :: xs).take past.length = past := List.take_left
    have hnext : past ++ x :: xs = past ++ [x] ++ xs := by simp
    have hlength : (past ++ [x]).length = past.length + 1 := by simp
    rw [List.zipIdx_cons, List.filterMap_cons]
    simp only [repeated, List.contains_eq_mem, decide_eq_true_eq, hpast]
    by_cases hseen : x ∈ seen
    · by_cases hreported : x ∈ reported
      · have hcount : past.count x ≠ 1 := by
          have := (h.reported_iff x).1 hreported
          omega
        rw [if_pos hseen, if_pos hreported, if_neg hcount, ih (h.again hreported), hlength, hnext]
      · rw [if_pos hseen, if_neg hreported, if_pos (h.count_eq_one hseen hreported),
          ih (h.second hseen hreported), hlength, hnext]
    · have hcount : past.count x ≠ 1 := by
        rw [h.count_eq_zero hseen]
        decide
      rw [if_neg hseen, if_neg hcount, ih (h.first hseen), hlength, hnext]

end Scanned

namespace Description

variable {d : Description}

theorem duplicateIds_eq (d : Description) :
    d.duplicateIds
      = d.ids.zipIdx.filterMap fun p => if (d.ids.take p.2).count p.1 = 1 then some p.1 else none :=
  Scanned.start.repeated_eq d.ids

/-- An id is reported for each place where it stands for the second time. -/
theorem mem_duplicateIds_iff {id : String} : id ∈ d.duplicateIds ↔ ∃ i, SecondAt d.ids id i := by
  rw [duplicateIds_eq, List.mem_filterMap]
  constructor
  · rintro ⟨⟨x, i⟩, hmem, hx⟩
    simp only [Option.ite_none_right_eq_some, Option.some.injEq] at hx
    obtain ⟨hcount, rfl⟩ := hx
    exact ⟨i, List.mk_mem_zipIdx_iff_getElem?.1 hmem, hcount⟩
  · rintro ⟨i, h⟩
    exact ⟨(id, i), List.mk_mem_zipIdx_iff_getElem?.2 h.here, by simp [h.before]⟩

/-- Ids are reported in the order in which they stand for the second time. -/
theorem pairwise_duplicateIds (d : Description) :
    d.duplicateIds.Pairwise fun x y =>
      ∃ i j, i < j ∧ SecondAt d.ids x i ∧ SecondAt d.ids y j := by
  rw [duplicateIds_eq, List.pairwise_filterMap]
  refine (pairwise_zipIdx d.ids 0).imp_of_mem ?_
  rintro ⟨x, i⟩ ⟨y, j⟩ hi hj hij x' hx y' hy
  simp only [Option.ite_none_right_eq_some, Option.some.injEq] at hx hy
  obtain ⟨hx, rfl⟩ := hx
  obtain ⟨hy, rfl⟩ := hy
  exact ⟨i, j, hij, ⟨List.mk_mem_zipIdx_iff_getElem?.1 hi, hx⟩,
    ⟨List.mk_mem_zipIdx_iff_getElem?.1 hj, hy⟩⟩

/-- No id is reported twice, however often it is used. -/
theorem nodup_duplicateIds (d : Description) : d.duplicateIds.Nodup := by
  refine d.pairwise_duplicateIds.imp ?_
  rintro x y ⟨i, j, hij, hi, hj⟩ rfl
  have := hi.unique hj
  omega

/-! ## 4. All issues -/

/-- A description is in order exactly if it has a title and ids that differ and say something. -/
theorem issues_eq_nil_iff (d : Description) :
    d.issues = [] ↔ trim d.title.toList ≠ [] ∧ (∀ id ∈ d.ids, trim id.toList ≠ []) ∧ d.ids.Nodup := by
  have htitle : (if isBlankText d.title = true then [Issue.emptyTitle] else []) = []
      ↔ trim d.title.toList ≠ [] := by
    simp [← Text.isBlankText_iff]
  have hplaces : (blankPlaces 0 d.ids).map Issue.emptyElementId = []
      ↔ ∀ id ∈ d.ids, trim id.toList ≠ [] := by
    rw [List.map_eq_nil_iff, List.eq_nil_iff_forall_not_mem]
    constructor
    · intro hnone id hid hblank
      obtain ⟨i, hi⟩ := List.mem_iff_getElem?.1 hid
      exact hnone i (mem_blankPlaces_iff.2 ⟨id, hi, hblank⟩)
    · intro hids i hi
      obtain ⟨id, hid, hblank⟩ := mem_blankPlaces_iff.1 hi
      exact hids id (List.mem_of_getElem? hid) hblank
  rw [issues, List.append_eq_nil_iff, List.append_eq_nil_iff, htitle, hplaces,
    List.map_eq_nil_iff, d.duplicateIds_eq_nil_iff, and_assoc]

/-- **The issues of a description are exactly the invariants that it violates**, in order: its title
if that is blank, the places of its blank ids ascending, and each id that is used at two places or
more, in the order in which ids are used for the second time. -/
theorem issues_report (d : Description) :
    (∃ (blanks : List Nat) (repeats : List String),
      d.issues = (if trim d.title.toList = [] then [.emptyTitle] else [])
          ++ blanks.map .emptyElementId ++ repeats.map .duplicateElementId
        ∧ blanks.Pairwise (· < ·)
        ∧ (∀ i, i ∈ blanks ↔ ∃ id, d.ids[i]? = some id ∧ trim id.toList = [])
        ∧ repeats.Nodup
        ∧ (∀ id, id ∈ repeats ↔ 2 ≤ d.ids.count id)
        ∧ repeats.Pairwise fun x y =>
          ∃ i j, i < j ∧ SecondAt d.ids x i ∧ SecondAt d.ids y j)
      ∧ (d.issues = []
        ↔ trim d.title.toList ≠ [] ∧ (∀ id ∈ d.ids, trim id.toList ≠ []) ∧ d.ids.Nodup) := by
  refine ⟨⟨blankPlaces 0 d.ids, d.duplicateIds, ?_, pairwise_blankPlaces d.ids,
    fun _ => mem_blankPlaces_iff, d.nodup_duplicateIds,
    fun _ => mem_duplicateIds_iff.trans exists_secondAt_iff, d.pairwise_duplicateIds⟩,
    d.issues_eq_nil_iff⟩
  simp only [issues, Text.isBlankText_iff]

/-- Ids whose repetitions interleave: the one that is repeated first is reported first. -/
example :
    { blank .form " " with
        elements := ["a", "b", "b", " ", "a", "b"].map fun id => .plain .input id id }.issues
      = [.emptyTitle, .emptyElementId 3, .duplicateElementId "b", .duplicateElementId "a"] := by
  decide

end Description

end Widgetry
