import Mathlib.Logic.Function.Iterate
import Widgetry.Decimal.Power
import Widgetry.Proofs.Widget.Repair

/-!
The search for a free suffix as a loop of its own, without a number of tries that ends it: one round
tries a number, and counts up if the suffixed form is taken. Main statement: for every element that
repair renames the loop stops, at a number that is at most the number of elements; so no counter
that can hold this number overflows (`suffix_search_stops`).

Nothing in a round gets smaller. The loop stops because the suffixed forms differ and only so many
texts are taken, which is `getElem?_distinctIds_of_mem`; here the numbers before the one found are
followed round by round (`iterate_round_of_taken`).
-/

namespace Widgetry

/-! ## 1. Rounds -/

/-- Where a search stands: at a number to try, at the number it stopped at, or beyond the greatest
number that its counter can hold. -/
inductive Search where
  | trying (n : Nat)
  | found (n : Nat)
  | overflown
  deriving Repr, DecidableEq

namespace Search

/-- One round of a search, with a counter that holds numbers up to the greatest one given, or all
numbers if none is given. -/
def round (greatest : Option Nat) (used : List String) (id : String) : Search → Search
  | trying n =>
    if used.contains (suffixed id n) then
      if greatest.all (n < ·) then trying (n + 1) else overflown
    else found n
  | stopped => stopped

variable {greatest : Option Nat} {used : List String} {id : String} {n k : Nat}

theorem round_of_mem (h : suffixed id n ∈ used) (hfits : ∀ m ∈ greatest, n < m) :
    round greatest used id (trying n) = trying (n + 1) := by
  have hcounts : greatest.all (n < ·) = true := by
    simpa [Option.all_eq_true] using hfits
  rw [round, if_pos (by simpa using h), if_pos hcounts]

theorem round_of_not_mem (h : suffixed id n ∉ used) :
    round greatest used id (trying n) = found n := by
  rw [round, if_neg (by simpa using h)]

/-- As long as the numbers are taken, every round goes on to the next one. -/
theorem iterate_round_of_taken {rounds : Nat}
    (htaken : ∀ m, n ≤ m → m < n + rounds → suffixed id m ∈ used)
    (hfits : ∀ m ∈ greatest, n + rounds ≤ m) :
    (round greatest used id)^[rounds] (trying n) = trying (n + rounds) := by
  induction rounds with
  | zero => rfl
  | succ rounds ih =>
    have hbefore := ih (fun m hm hlt => htaken m hm (by omega))
      (fun m hm => Nat.le_of_succ_le (hfits m hm))
    have hlast : suffixed id (n + rounds) ∈ used := htaken _ (by omega) (by omega)
    rw [Function.iterate_succ_apply', hbefore, round_of_mem hlast fun m hm => hfits m hm]
    rfl

/-- A search that starts at the number two tries every number up to some one, and stops there. -/
structure StopsAt (greatest : Option Nat) (used : List String) (id : String) (k : Nat) : Prop where
  start : 2 ≤ k
  tries : ∀ n, 2 ≤ n → n ≤ k → (round greatest used id)^[n - 2] (trying 2) = trying n
  stops : ∀ rounds, k - 2 < rounds → (round greatest used id)^[rounds] (trying 2) = found k

/-- A search stops at the first number that is free, if its counter can hold this number. -/
theorem stopsAt_of_first (hk : 2 ≤ k) (htaken : ∀ m, 2 ≤ m → m < k → suffixed id m ∈ used)
    (hfree : suffixed id k ∉ used) (hfits : ∀ m ∈ greatest, k ≤ m) :
    StopsAt greatest used id k := by
  -- up to the first free number every round finds its suffix taken
  have htries : ∀ n, 2 ≤ n → n ≤ k →
      (round greatest used id)^[n - 2] (trying 2) = trying n := by
    intro n h2 hn
    have hn2 : 2 + (n - 2) = n := by omega
    have hrun : (round greatest used id)^[n - 2] (trying 2) = trying (2 + (n - 2)) :=
      iterate_round_of_taken (fun m hm hlt => htaken m hm (by omega))
        (fun m hm => by have := hfits m hm; omega)
    rwa [hn2] at hrun
  refine ⟨hk, htries, fun rounds hrounds => ?_⟩
  obtain ⟨later, rfl⟩ := Nat.exists_eq_add_of_lt hrounds
  have hfound : (round greatest used id)^[k - 2 + 1] (trying 2) = found k := by
    rw [Function.iterate_succ_apply', htries k hk (Nat.le_refl k), round_of_not_mem hfree]
  -- a search that has stopped stays where it is
  have hstays : round greatest used id (found k) = found k := rfl
  rw [show k - 2 + later + 1 = later + (k - 2 + 1) by omega, Function.iterate_add_apply, hfound]
  exact Function.iterate_fixed hstays later

end Search

/-! ## 2. Renamed elements -/

/-- The greatest number of 32 bits, one of which is the sign. -/
def greatestSigned32 : Nat := Decimal.twoTo 31 - 1

namespace Description

variable {d : Description} {i : Nat} {id : String}

/-- The ids that repair has given out before a place are those of the repaired elements before it.
-/
theorem take_ids_repaired (hi : i ≤ d.ids.length) :
    d.repaired.ids.take i = givenIds d.ids [] (d.ids.take i) := by
  rw [ids_repaired, take_givenIds hi]

/-- **The search for a free suffix ends, and early.** For every element whose id repair changes, the
search among the ids of the document and those given out before stops at a number that is at most
the number of elements, with a counter for all numbers and, if there are fewer than two to the 31
elements, with one of 32 bits; and the suffixed form of this number is the new id. -/
theorem suffix_search_stops (h : d.ids[i]? = some id) (hrenamed : d.repaired.ids[i]? ≠ some id) :
    ∃ k, k ≤ d.elements.length
      ∧ Search.StopsAt none (d.ids ++ d.repaired.ids.take i) id k
      ∧ (d.elements.length < Decimal.twoTo 31 →
        Search.StopsAt (some greatestSigned32) (d.ids ++ d.repaired.ids.take i) id k)
      ∧ d.repaired.ids[i]? = some (suffixed id k) := by
  have hi : i ≤ d.ids.length := (List.getElem?_eq_some_iff.1 h).1.le
  have hrecurs : id ∈ d.ids.take i :=
    Decidable.byContradiction fun hnew => hrenamed (getElem?_ids_repaired_of_not_mem h hnew)
  obtain ⟨k, h2, hk, hentry, hfree, hmin⟩ := getElem?_distinctIds_of_mem h hrecurs
  -- what repair looks at are the ids of the document and those given out before this place
  have hused (text : String) : Occupied d.ids (givenIds d.ids [] d.ids) i text
      ↔ text ∈ d.ids ++ d.repaired.ids.take i := by
    rw [occupied_iff hi, take_ids_repaired hi, List.mem_append]
  have hstops (greatest : Option Nat) (hfits : ∀ m ∈ greatest, k ≤ m) :
      Search.StopsAt greatest (d.ids ++ d.repaired.ids.take i) id k :=
    Search.stopsAt_of_first h2 (fun m hm hlt => (hused _).1 (hmin m hm hlt))
      (mt (hused _).2 hfree) hfits
  rw [d.length_ids] at hk
  refine ⟨k, hk, hstops none nofun, fun hfew => hstops _ fun m hm => ?_, ?_⟩
  · obtain rfl := Option.some.inj hm
    rw [greatestSigned32]
    omega
  · rw [ids_repaired, givenIds, List.getElem?_map, hentry]
    rfl

/-- Five elements of two ids, of which one looks like a suffixed form of the other. -/
def crowdedWidget : Description :=
  { blank .quiz "Quiz" with
    elements := ["q", "q", "q_2", "q", "q_2"].map fun id => .plain .input id id }

/-- The fourth element tries a suffix of an id of the document and one that was given out. -/
theorem suffix_search_stops_crowdedWidget :
    crowdedWidget.ids[3]? = some "q" ∧ crowdedWidget.repaired.ids[3]? ≠ some "q"
      ∧ Search.StopsAt (some greatestSigned32)
        (crowdedWidget.ids ++ crowdedWidget.repaired.ids.take 3) "q" 4 := by
  have h : crowdedWidget.ids[3]? = some "q" := by decide +kernel
  have hrenamed : crowdedWidget.repaired.ids[3]? ≠ some "q" := by decide +kernel
  have hgiven : crowdedWidget.repaired.ids[3]? = some (suffixed "q" 4) := by decide +kernel
  obtain ⟨k, -, -, hcounter, hid⟩ := suffix_search_stops h hrenamed
  obtain rfl : k = 4 := suffixed_injective "q" (Option.some.inj (hid.symm.trans hgiven))
  exact ⟨h, hrenamed, hcounter (by decide +kernel)⟩

end Description

end Widgetry
