import Widgetry.Component.Style

/-!
Styles of elements over fixed styles. An element's properties are laid over a fixed style: the keys
are the fixed ones in their order and then the element's other keys in ascending order
(`keys_setAll`), and a key has the element's value or else the fixed one (`get?_setAll`).

Hence the order of the keys says nothing of its own. Two styles laid over one fixed style have the
same keys in the same order as soon as they have the same set of keys (`keys_overlay_eq`), and they
are equal as soon as they have the same values (`overlay_eq_iff`).
-/

namespace Widgetry.Component.Style

/-! ## 1. Keys -/

/-- The keys of a style in their order. -/
def keys (s : Style) : List String := s.entries.map Prod.fst

theorem map_fst_setIn (key value : String) (es : List (String × String)) :
    (setIn key value es).map Prod.fst
      = if key ∈ es.map Prod.fst then es.map Prod.fst else es.map Prod.fst ++ [key] := by
  induction es with
  | nil => rfl
  | cons e rest ih =>
    obtain ⟨k, v⟩ := e
    by_cases h : k = key
    · simp [setIn, h]
    · simp only [setIn, if_neg h, List.map_cons, ih, List.mem_cons, Ne.symm h, false_or]
      split <;> rfl

/-- Setting a key that is there keeps the keys, and setting another one adds it at the end. -/
theorem keys_set (s : Style) (key value : String) :
    (s.set key value).keys = if key ∈ s.keys then s.keys else s.keys ++ [key] :=
  map_fst_setIn key value s.entries

theorem setAll_cons (s : Style) (e : String × String) (es : List (String × String)) :
    s.setAll (e :: es) = (s.set e.1 e.2).setAll es := rfl

/-- Setting properties with different keys adds the new keys behind the old ones. -/
theorem keys_setAll (s : Style) {es : List (String × String)} (h : (es.map Prod.fst).Nodup) :
    (s.setAll es).keys = s.keys ++ (es.map Prod.fst).filter (· ∉ s.keys) := by
  induction es generalizing s with
  | nil => simp [setAll]
  | cons e es ih =>
    obtain ⟨hnew, hrest⟩ := List.nodup_cons.1 h
    rw [setAll_cons, ih _ hrest, keys_set]
    by_cases hk : e.1 ∈ s.keys
    · simp [hk]
    · have hfilter : (es.map Prod.fst).filter (· ∉ s.keys ++ [e.1])
          = (es.map Prod.fst).filter (· ∉ s.keys) := by
        refine List.filter_congr fun k hmem => ?_
        have hne : k ≠ e.1 := fun heq => hnew (heq ▸ hmem)
        simp [hne]
      rw [if_neg hk, hfilter]
      simp [hk]

theorem mem_keys_iff {s : Style} {key : String} : key ∈ s.keys ↔ (s.get? key).isSome = true := by
  simp [keys, get?, List.find?_isSome]

/-! ## 2. Values -/

/-- Of properties with different keys, each has the value that was set for it. -/
theorem get?_setAll (s : Style) {es : List (String × String)} (h : (es.map Prod.fst).Nodup)
    (key : String) :
    (s.setAll es).get? key
      = ((es.find? fun e => e.1 == key).map Prod.snd).or (s.get? key) := by
  induction es generalizing s with
  | nil => rfl
  | cons e es ih =>
    obtain ⟨hnew, hrest⟩ := List.nodup_cons.1 h
    rw [setAll_cons, ih _ hrest]
    by_cases hk : e.1 = key
    -- no later property has this key, so the value that is set here stays
    · have hnone : es.find? (fun e => e.1 == key) = none := by
        refine List.find?_eq_none.2 fun f hf hfk => hnew ?_
        exact List.mem_map.2 ⟨f, hf, (beq_iff_eq.1 hfk).trans hk.symm⟩
      subst hk
      simp [hnone]
    · rw [get?_set_of_ne (Ne.symm hk), List.find?_cons_of_neg (by simpa using hk)]

/-- Styles with one list of different keys are equal if every key has the same value. -/
theorem eq_of_get?_eq {s t : Style} (hkeys : s.keys = t.keys) (hnodup : s.keys.Nodup)
    (hget : ∀ key, s.get? key = t.get? key) : s = t := by
  obtain ⟨es⟩ := s
  obtain ⟨fs⟩ := t
  congr 1
  simp only [keys, get?] at hkeys hnodup hget
  induction es generalizing fs with
  | nil => exact (List.map_eq_nil_iff.1 hkeys.symm).symm
  | cons e es ih =>
    cases fs with
    | nil => simp at hkeys
    | cons f fs =>
      obtain ⟨k, v⟩ := e
      obtain ⟨k', v'⟩ := f
      obtain ⟨rfl, hrest⟩ : k = k' ∧ es.map Prod.fst = fs.map Prod.fst := by
        simpa using hkeys
      obtain ⟨hnew, hnodup⟩ := List.nodup_cons.1 hnodup
      have hv : v = v' := by simpa using hget k
      -- the key at the head is in neither rest, every other key is not at the head
      have hother : ∀ key, (es.find? fun e => e.1 == key).map Prod.snd
          = (fs.find? fun e => e.1 == key).map Prod.snd := by
        intro key
        by_cases hk : k = key
        · have absent (gs : List (String × String)) (hgs : key ∉ gs.map Prod.fst) :
              gs.find? (fun e => e.1 == key) = none :=
            List.find?_eq_none.2 fun g hg hgk =>
              hgs (List.mem_map.2 ⟨g, hg, beq_iff_eq.1 hgk⟩)
          rw [absent es (hk ▸ hnew), absent fs (hk ▸ hrest ▸ hnew)]
        · simpa [hk] using hget key
      rw [hv, ih hnodup fs hrest hother]

end Style

/-! ## 3. Styles laid over a fixed style -/

open Style

/-- The keys of a dictionary differ. -/
theorem nodup_keys (d : Dictionary String) : (d.entries.map Prod.fst).Nodup := by
  have hlt : (d.entries.map Prod.fst).Pairwise (· < ·) := List.pairwise_map.2 d.ascending
  refine hlt.imp ?_
  rintro a _ hab rfl
  exact String.lt_irrefl a hab

/-- The value of a key in a dictionary laid over a fixed style. -/
def overlaid (base : Style) (d : Dictionary String) (key : String) : Option String :=
  (d.get? key).or (base.get? key)

theorem get?_overlay (base : Style) (d : Dictionary String) (key : String) :
    (base.setAll d.entries).get? key = overlaid base d key :=
  get?_setAll base (nodup_keys d) key

theorem keys_adopting (base : Style) (names : List String) (d : Dictionary String) :
    (base.adopting names d).keys = base.keys := by
  simp [keys, adopting]

theorem get?_adopting (base : Style) (names : List String) (d : Dictionary String) (key : String) :
    (base.adopting names d).get? key
      = (base.get? key).map fun v => if names.contains key then (d.get? key).getD v else v := by
  simp only [get?, adopting, List.find?_map, Option.map_map, Function.comp_def]
  cases hfind : base.entries.find? (fun e => e.1 == key) with
  | none => rfl
  | some e =>
    have hkey : e.1 = key := by simpa using List.find?_some hfind
    simp [hkey]

theorem nodup_keys_overlay {base : Style} (h : base.keys.Nodup) (d : Dictionary String) :
    (base.setAll d.entries).keys.Nodup := by
  rw [keys_setAll base (nodup_keys d)]
  refine List.nodup_append.2 ⟨h, (nodup_keys d).filter _, ?_⟩
  rintro a ha b hb rfl
  simp [ha] at hb

/-- Over one fixed style the set of keys determines their order. -/
theorem keys_overlay_eq {base : Style} {d e : Dictionary String}
    (hmem : ∀ key, key ∈ (base.setAll d.entries).keys ↔ key ∈ (base.setAll e.entries).keys) :
    (base.setAll d.entries).keys = (base.setAll e.entries).keys := by
  have added (d : Dictionary String) :
      ((d.entries.map Prod.fst).filter (· ∉ base.keys)).Pairwise (· < ·) :=
    (List.pairwise_map.2 d.ascending).filter _
  have hnodup (d : Dictionary String) :
      ((d.entries.map Prod.fst).filter (· ∉ base.keys)).Nodup := (nodup_keys d).filter _
  rw [keys_setAll base (nodup_keys d), keys_setAll base (nodup_keys e)] at hmem ⊢
  congr 1
  refine List.Perm.eq_of_pairwise
    (fun a b _ _ hab hba => absurd hba (String.lt_asymm hab)) (added d) (added e) ?_
  refine (List.perm_ext_iff_of_nodup (hnodup d) (hnodup e)).2 fun key => ?_
  by_cases hk : key ∈ base.keys
  · simp [hk]
  · simpa [hk] using hmem key

/-- Over one fixed style the values determine the style. -/
theorem overlay_eq_iff {base : Style} (h : base.keys.Nodup) {d e : Dictionary String} :
    base.setAll d.entries = base.setAll e.entries
      ↔ ∀ key, overlaid base d key = overlaid base e key := by
  constructor
  · intro heq key
    rw [← get?_overlay, heq, get?_overlay]
  · intro hget
    have hget' : ∀ key, (base.setAll d.entries).get? key = (base.setAll e.entries).get? key := by
      simpa only [get?_overlay] using hget
    refine eq_of_get?_eq (keys_overlay_eq fun key => ?_) (nodup_keys_overlay h d) hget'
    rw [mem_keys_iff, mem_keys_iff, hget' key]

/-- Looking properties up before all are set is of no consequence: a value that was found is set
again, and where none was found the fixed one has stayed. -/
theorem setAll_adopting {base : Style} (h : base.keys.Nodup) (names : List String)
    (d : Dictionary String) :
    (base.adopting names d).setAll d.entries = base.setAll d.entries := by
  have hnodup : (base.adopting names d).keys.Nodup := by rwa [keys_adopting]
  refine eq_of_get?_eq ?_ (nodup_keys_overlay hnodup d) fun key => ?_
  · rw [keys_setAll _ (nodup_keys d), keys_setAll _ (nodup_keys d), keys_adopting]
  · rw [get?_overlay, get?_overlay, overlaid, overlaid, get?_adopting]
    cases d.get? key <;> cases base.get? key <;> simp

theorem textStyle_eq (e : Element) : textStyle e = textDefaults.setAll e.style.entries :=
  setAll_adopting (by decide) _ _

theorem buttonStyle_eq (e : Element) : buttonStyle e = buttonDefaults.setAll e.style.entries :=
  setAll_adopting (by decide) _ _

end Widgetry.Component
