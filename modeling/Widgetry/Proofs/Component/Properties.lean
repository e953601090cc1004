import Mathlib.Data.Finset.Card
import Mathlib.Data.List.Induction
import Widgetry.Proofs.Component.Style
import Widgetry.Proofs.Script.Object

/-!
Styles as maps in which the last value wins and the first place stays. Of properties that are set
one after another on the empty style, every key stands once, where it was first set, with the value
that was set last; and the printed object is read as these properties (`Style.ofSets_last_wins`).

One more property keeps the row of sets and the style in step (`Tracks.set`): a new key comes behind
all others in both, and an old one changes its value only.
-/

namespace Widgetry.Component.Style

variable {s : Style} {sets : List (String × String)} {key value : String}

/-- The style on which properties were set one after another. -/
def ofSets (sets : List (String × String)) : Style :=
  empty.setAll sets

/-- A value is the one that was set last for a key. -/
def LastSet (sets : List (String × String)) (key value : String) : Prop :=
  ∃ before behind, sets = before ++ (key, value) :: behind ∧ key ∉ behind.map Prod.fst

/-! ## 1. One set -/

/-- The last set is of the key, or the value was set before. -/
theorem lastSet_append_iff {e : String × String} :
    LastSet (sets ++ [e]) key value ↔ e = (key, value) ∨ e.1 ≠ key ∧ LastSet sets key value := by
  constructor
  · rintro ⟨before, behind, hsets, hlast⟩
    rcases List.eq_nil_or_concat' behind with rfl | ⟨behind, f, rfl⟩
    · exact .inl (List.cons.inj (List.append_inj_right' hsets rfl)).1
    · rw [← List.cons_append, ← List.append_assoc] at hsets
      obtain ⟨rfl, hends⟩ := List.append_inj' hsets rfl
      obtain rfl : e = f := (List.cons.inj hends).1
      rw [List.map_append, List.mem_append, not_or] at hlast
      exact .inr ⟨fun heq => hlast.2 (by simp [heq]), before, behind, rfl, hlast.1⟩
  · rintro (rfl | ⟨hne, before, behind, rfl, hlast⟩)
    · exact ⟨sets, [], rfl, List.not_mem_nil⟩
    · exact ⟨before, behind ++ [e], by simp, by simpa [Ne.symm hne] using hlast⟩

/-- What a style is after sets: it has the keys that were set, in the order in which each was first
set, and their last values. -/
structure Tracks (s : Style) (sets : List (String × String)) : Prop where
  mem_iff : ∀ key, key ∈ s.keys ↔ key ∈ sets.map Prod.fst
  ordered : s.keys.Pairwise fun a b => (sets.map Prod.fst).idxOf a < (sets.map Prod.fst).idxOf b
  get_iff : ∀ key value, s.get? key = some value ↔ LastSet sets key value

theorem tracks_empty : Tracks empty [] where
  mem_iff _ := Iff.rfl
  ordered := List.Pairwise.nil
  get_iff key value := by simp [empty, get?, LastSet]

/-- One more property is set. -/
theorem Tracks.set (h : Tracks s sets) (key value : String) :
    Tracks (s.set key value) (sets ++ [(key, value)]) where
  mem_iff k := by
    rw [keys_set, List.map_append, List.mem_append, ← h.mem_iff]
    split
    · rename_i hkey
      have hsingle : k ∈ [(key, value)].map Prod.fst → k ∈ s.keys := by
        simpa using fun heq : k = key => heq ▸ hkey
      exact ⟨.inl, fun hk => hk.elim id hsingle⟩
    · simp
  ordered := by
    -- a key that is there already keeps the place where it was set first
    have hkept : s.keys.Pairwise fun a b =>
        ((sets ++ [(key, value)]).map Prod.fst).idxOf a
          < ((sets ++ [(key, value)]).map Prod.fst).idxOf b := by
      refine h.ordered.imp_of_mem fun ha hb hlt => ?_
      rw [List.map_append, List.idxOf_append_of_mem ((h.mem_iff _).1 ha),
        List.idxOf_append_of_mem ((h.mem_iff _).1 hb)]
      exact hlt
    rw [keys_set]
    split
    · exact hkept
    · rename_i hkey
      refine List.pairwise_append.2 ⟨hkept, List.pairwise_singleton _ _, fun a ha b hb => ?_⟩
      rw [List.mem_singleton.1 hb, List.map_append,
        List.idxOf_append_of_mem ((h.mem_iff a).1 ha),
        List.idxOf_append_of_notMem fun hmem => hkey ((h.mem_iff key).2 hmem)]
      exact Nat.lt_add_right _ (List.idxOf_lt_length_iff.2 ((h.mem_iff a).1 ha))
  get_iff k v := by
    rw [lastSet_append_iff]
    by_cases hk : k = key
    · simp [hk]
    · simp [get?_set_of_ne hk, h.get_iff, Ne.symm hk]

/-! ## 2. All sets -/

theorem ofSets_append (sets : List (String × String)) (key value : String) :
    ofSets (sets ++ [(key, value)]) = (ofSets sets).set key value := by
  simp [ofSets, setAll]

theorem tracks_ofSets (sets : List (String × String)) : Tracks (ofSets sets) sets := by
  induction sets using List.reverseRecOn with
  | nil => exact tracks_empty
  | append_singleton sets e ih =>
    rw [ofSets_append]
    exact ih.set e.1 e.2

/-- Keys with different places differ. -/
theorem Tracks.nodup (h : Tracks s sets) : s.keys.Nodup := by
  refine h.ordered.imp ?_
  rintro a _ hlt rfl
  exact Nat.lt_irrefl _ hlt

theorem Tracks.size_eq (h : Tracks s sets) : s.size = (sets.map Prod.fst).toFinset.card := by
  have hkeys : s.keys.toFinset = (sets.map Prod.fst).toFinset := by
    ext key
    rw [List.mem_toFinset, List.mem_toFinset, h.mem_iff]
  rw [← hkeys, List.toFinset_card_of_nodup h.nodup, keys, List.length_map, size]

theorem Tracks.get?_eq_none_iff (h : Tracks s sets) :
    s.get? key = none ↔ key ∉ sets.map Prod.fst := by
  rw [← h.mem_iff, mem_keys_iff, Option.isSome_iff_ne_none, not_not]

/-- Of different keys each has the value with which it stands in the style. -/
theorem get?_of_mem {e : String × String} (hkeys : s.keys.Nodup) (he : e ∈ s.entries) :
    s.get? e.1 = some e.2 := by
  obtain ⟨before, behind, hentries⟩ := List.append_of_mem he
  have hbefore : before.find? (fun f => f.1 == e.1) = none := by
    refine List.find?_eq_none.2 fun f hf heq => ?_
    rw [keys, hentries, List.map_append, List.nodup_append] at hkeys
    exact hkeys.2.2 f.1 (List.mem_map_of_mem hf) e.1 (by simp) (beq_iff_eq.1 heq)
  simp [get?, hentries, List.find?_append, hbefore]

/-! ## 3. The map and its printed form -/

theorem print_eq_iff {t : Style} : s.print = t.print ↔ s = t := by
  simpa [print, String.ofList_inj] using @chunks_append_inj s t [] []

/-- **A style is a map in which the last value wins, in the order of the first sets, and prints
unambiguously.** -/
theorem ofSets_last_wins (sets : List (String × String)) :
    (ofSets sets).keys.Nodup
      ∧ (∀ key, key ∈ (ofSets sets).keys ↔ key ∈ sets.map Prod.fst)
      ∧ ((ofSets sets).keys.Pairwise fun a b =>
          (sets.map Prod.fst).idxOf a < (sets.map Prod.fst).idxOf b)
      ∧ (ofSets sets).size = (ofSets sets).keys.length
      ∧ (ofSets sets).size = (sets.map Prod.fst).toFinset.card
      ∧ (∀ key code, ((ofSets sets).get? key).map literalText = some code
          ↔ ∃ value, LastSet sets key value ∧ code = literalText value)
      ∧ (∀ key, (ofSets sets).get? key = none ↔ key ∉ sets.map Prod.fst)
      ∧ (∀ rest, ∃ es, Script.readObject? ((ofSets sets).print.toList ++ rest) = some (es, rest)
          ∧ es.map Prod.fst = (ofSets sets).keys ∧ ∀ e ∈ es, LastSet sets e.1 e.2)
      ∧ (∀ t : Style, (ofSets sets).print = t.print ↔ (ofSets sets).entries = t.entries) := by
  have h := tracks_ofSets sets
  refine ⟨h.nodup, h.mem_iff, h.ordered, (List.length_map _).symm, h.size_eq, fun key code => ?_,
    fun key => h.get?_eq_none_iff, fun rest => ?_, fun t => ?_⟩
  · simp [h.get_iff, eq_comm]
  · refine ⟨(ofSets sets).entries, ?_, rfl, fun e he => ?_⟩
    · rw [print, String.toList_ofList, Script.readObject?_chunks]
    · exact (h.get_iff _ _).1 (get?_of_mem h.nodup he)
  · rw [print_eq_iff, Style.mk.injEq]

/-- A value is set again behind another property, whose key is no bare name. -/
example : (ofSets [("color", "red"), ("data-x", "1"), ("color", "\"")]).print
    = r#"{ color: "\"", "data-x": "1" }"# := by
  decide +kernel

end Widgetry.Component.Style
