import Mathlib.Data.List.DropRight
import Widgetry.Decimal.Layout

/-!
Decimal digits. The digits of a natural number are below ten, there is at least one, and the first
one is not zero unless the number is (`proper_digitsOf`). So are the shortest digits of a binary
number (`shortest_eq_zero_or`): zero is not among the decimals that round to any other number, so
the digits that are left when zeros at the end are dropped still begin with the first one.
-/

namespace Widgetry.Decimal

/-- The characters of digits. -/
def digitChars (ds : List Nat) : List Char :=
  ds.map fun d => Char.ofNat ('0'.toNat + d)

/-- Digits as they stand at the front of a number: at least one, and no zero before others. -/
structure Proper (ds : List Nat) : Prop where
  small : ∀ d ∈ ds, d < 10
  first : ds = [0] ∨ ∃ d rest, ds = d :: rest ∧ d ≠ 0

theorem proper_zero : Proper [0] := ⟨by decide, .inl rfl⟩

theorem Proper.ne_nil {ds : List Nat} (h : Proper ds) : ds ≠ [] := by
  rcases h.first with rfl | ⟨d, rest, rfl, -⟩ <;> exact List.cons_ne_nil _ _

/-! ## 1. Digits of natural numbers -/

/-- A number below ten is its own digit. -/
theorem digitsOf_of_lt {n : Nat} (h : n < 10) : digitsOf n = [n] := by
  rw [digitsOf, Nat.toDigits_of_lt_base h, List.map_singleton, Nat.toNat_digitChar_of_lt_ten h]
  simp

/-- The last digit is the remainder by ten. -/
theorem digitsOf_of_le {n : Nat} (h : 10 ≤ n) : digitsOf n = digitsOf (n / 10) ++ [n % 10] := by
  have hlast : n % 10 < 10 := Nat.mod_lt n (by decide)
  rw [digitsOf, Nat.toDigits_of_base_le (by decide) h, List.map_append, List.map_singleton,
    Nat.toNat_digitChar_of_lt_ten hlast, digitsOf]
  simp

/-- What holds of the numbers below ten, and of a number if it holds of the one without its last
digit, holds of all. -/
theorem digits_induction {motive : Nat → Prop} (single : ∀ n < 10, motive n)
    (more : ∀ n, 10 ≤ n → motive (n / 10) → motive n) (n : Nat) : motive n := by
  induction n using Nat.strongRecOn with
  | ind n ih =>
    by_cases h : n < 10
    · exact single n h
    · exact more n (Nat.le_of_not_lt h) (ih _ (Nat.div_lt_self (by omega) (by decide)))

theorem lt_ten_of_mem_digitsOf (n : Nat) : ∀ d ∈ digitsOf n, d < 10 := by
  induction n using digits_induction with
  | single n h =>
    rw [digitsOf_of_lt h]
    exact List.forall_mem_singleton.2 h
  | more n h ih =>
    rw [digitsOf_of_le h]
    exact List.forall_mem_append.2
      ⟨ih, List.forall_mem_singleton.2 (Nat.mod_lt n (by decide))⟩

/-- The digits of a number other than zero do not begin with zero. -/
theorem exists_digitsOf_eq_cons {n : Nat} (h : n ≠ 0) :
    ∃ d rest, digitsOf n = d :: rest ∧ d ≠ 0 := by
  induction n using digits_induction with
  | single n hn => exact ⟨n, [], digitsOf_of_lt hn, h⟩
  | more n hn ih =>
    obtain ⟨d, rest, heq, hd⟩ := ih (by omega)
    exact ⟨d, rest ++ [n % 10], by rw [digitsOf_of_le hn, heq, List.cons_append], hd⟩

/-- The digits of a number are as they have to be written. -/
theorem proper_digitsOf (n : Nat) : Proper (digitsOf n) where
  small := lt_ten_of_mem_digitsOf n
  first := by
    by_cases h : n = 0
    · rw [h]
      exact .inl rfl
    · exact .inr (exists_digitsOf_eq_cons h)

/-- The digits of a number spell it. -/
theorem ofDigits_digitsOf (n : Nat) : (digitsOf n).foldl (fun n d => n * 10 + d) 0 = n := by
  induction n using digits_induction with
  | single n h => rw [digitsOf_of_lt h, List.foldl_cons, List.foldl_nil, Nat.zero_mul, Nat.zero_add]
  | more n h ih =>
    rw [digitsOf_of_le h, List.foldl_append, ih, List.foldl_cons, List.foldl_nil]
    exact Nat.div_add_mod' n 10

/-- The characters of digits follow one another. -/
theorem digitChar_of_lt_ten : ∀ d < 10, Nat.digitChar d = Char.ofNat ('0'.toNat + d) := by
  decide

/-- The text of a natural number is that of its digits. -/
theorem digitChars_digitsOf (n : Nat) : digitChars (digitsOf n) = Nat.toDigits 10 n := by
  induction n using digits_induction with
  | single n h =>
    rw [digitsOf_of_lt h, Nat.toDigits_of_lt_base h, digitChar_of_lt_ten n h]
    rfl
  | more n h ih =>
    have hlast := digitChar_of_lt_ten _ (Nat.mod_lt n (by decide))
    rw [digitsOf_of_le h, Nat.toDigits_of_base_le (by decide) h, hlast, ← ih]
    exact List.map_append

/-! ## 2. Shortest digits -/

theorem dropZeros_isPrefix (ds : List Nat) : dropZeros ds <+: ds := List.rdropWhile_prefix _ ds

/-- A first digit that is not zero stays when the zeros at the end are dropped. -/
theorem exists_dropZeros_eq_cons {d : Nat} (hd : d ≠ 0) (rest : List Nat) :
    ∃ kept, dropZeros (d :: rest) = d :: kept := by
  obtain ⟨more, heq⟩ := dropZeros_isPrefix (d :: rest)
  cases hkept : dropZeros (d :: rest) with
  | nil =>
    have hzero := List.rdropWhile_eq_nil_iff.1 hkept d List.mem_cons_self
    exact absurd (beq_iff_eq.1 hzero) hd
  | cons c kept =>
    rw [hkept] at heq
    exact ⟨kept, by rw [(List.cons.inj heq).1]⟩

theorem twoTo_pos (n : Nat) : 0 < twoTo n := Nat.pow_pos (by decide)

theorem tenTo_pos (n : Nat) : 0 < tenTo n := Nat.pow_pos (by decide)

/-- A number other than zero does not vanish when it is scaled. -/
theorem scaled_fst_pos {num : Nat} (h : 0 < num) (den : Nat) (e : Int) :
    0 < (scaled num den e).1 := by
  unfold scaled
  split
  · exact h
  · exact Nat.mul_pos h (twoTo_pos _)

theorem gridPoint_zero_fst (place : Int) : (gridPoint 0 place).1 = 0 := by
  unfold gridPoint
  split
  · rfl
  · exact Nat.zero_mul _

theorem gridPoint_snd_pos (count : Nat) (place : Int) : 0 < (gridPoint count place).2 := by
  unfold gridPoint
  split
  · exact tenTo_pos _
  · exact Nat.one_pos

/-- Zero does not round to a number that is not zero. -/
theorem not_contains_zero (f : Format) {m : Nat} (hm : m ≠ 0) (e place : Int) :
    (Interval.around f m e).contains (gridPoint 0 place) = false := by
  have hlow : 0 < (Interval.around f m e).low.1 := scaled_fst_pos (by split <;> omega) 1 (e - 2)
  have hpoint := gridPoint_zero_fst place
  unfold Interval.contains
  split
  · have hbelow : fractionLE (Interval.around f m e).low (gridPoint 0 place) = false := by
      rw [fractionLE, hpoint, Nat.zero_mul]
      exact decide_eq_false (Nat.not_le.2 (Nat.mul_pos hlow (gridPoint_snd_pos 0 place)))
    rw [hbelow, Bool.false_and]
  · have habove : fractionLE (gridPoint 0 place) (Interval.around f m e).low = true := by
      rw [fractionLE, hpoint, Nat.zero_mul]
      exact decide_eq_true (Nat.zero_le _)
    rw [habove, Bool.not_true, Bool.false_and]

/-- The nearest integer to a fraction is not below the integer part. -/
theorem div_le_nearest (t : Tie) (num den : Nat) : num / den ≤ t.nearest num den := by
  cases t with
  | even =>
    show num / den ≤ nearest num den
    unfold nearest
    dsimp only
    split
    · exact Nat.le_refl _
    · split
      · exact Nat.le_succ _
      · exact Nat.le_add_right _ _
  | away =>
    calc num / den = 2 * num / (2 * den) := (Nat.mul_div_mul_left num den (by decide)).symm
      _ ≤ (2 * num + den) / (2 * den) := Nat.div_le_div_right (Nat.le_add_right _ _)

/-- A number other than zero is never next to zero on the grid that finds its digits. -/
theorem neighbour?_ne_zero {t : Tie} {f : Format} {m : Nat} (hm : m ≠ 0) {e place : Int}
    {x : Nat × Nat} {count : Nat}
    (h : neighbour? t (Interval.around f m e) x place = some count) : count ≠ 0 := by
  have hzero {n : Nat} (hn : (Interval.around f m e).contains (gridPoint n place) = true) :
      n ≠ 0 := by
    rintro rfl
    rw [not_contains_zero f hm] at hn
    cases hn
  unfold neighbour? at h
  dsimp only at h
  split at h
  · rename_i hboth
    obtain rfl := Option.some.inj h
    have hbelow := hzero (Bool.and_eq_true_iff.1 hboth).1
    exact Nat.ne_of_gt (Nat.lt_of_lt_of_le (Nat.pos_of_ne_zero hbelow) (div_le_nearest t _ _))
  · split at h
    · rename_i hbelow
      obtain rfl := Option.some.inj h
      exact hzero hbelow
    · split at h
      · obtain rfl := Option.some.inj h
        exact Nat.succ_ne_zero _
      · cases h

/-- The shortest digits of a number are the digit zero before the point, or begin with another
digit. -/
theorem shortest_eq_zero_or (t : Tie) (f : Format) (m : Nat) (e : Int) :
    shortest t f m e = ⟨[0], 1⟩
      ∨ ∃ d rest, (shortest t f m e).digits = d :: rest ∧ d ≠ 0 ∧ ∀ x ∈ d :: rest, x < 10 := by
  unfold shortest
  split
  · exact .inl rfl
  · rename_i hm
    have hm : m ≠ 0 := by simpa using hm
    dsimp only
    split
    · rename_i count place hfound
      obtain ⟨n, -, hn⟩ := List.exists_of_findSome?_eq_some hfound
      obtain ⟨c, hc, hpair⟩ := Option.map_eq_some_iff.1 hn
      obtain ⟨rfl, -⟩ := Prod.mk.inj hpair
      obtain ⟨d, rest, hdigits, hd⟩ := exists_digitsOf_eq_cons (neighbour?_ne_zero hm hc)
      obtain ⟨kept, hkept⟩ := exists_dropZeros_eq_cons hd rest
      refine .inr ⟨d, kept, by rw [hdigits, hkept], hd, fun x hx => lt_ten_of_mem_digitsOf c x ?_⟩
      rw [hdigits]
      exact (dropZeros_isPrefix _).subset (hkept ▸ hx)
    · exact .inl rfl

end Widgetry.Decimal
