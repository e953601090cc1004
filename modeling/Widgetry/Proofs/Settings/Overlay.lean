import Widgetry.Proofs.Settings.Setting
import Widgetry.Settings.Layers

/-!
What the variables of the environment make of a setting. Main statements: what stands at the place
of a setting is the value of its variable, or else what stood there before (`get?_foldl_overlay`);
and a section is a table as soon as one of its settings has a variable (`isTableAt_foldl_overlay`),
and otherwise what it was (`get?_group_foldl_overlay`).

All of them go by one variable at a time, from what one can do (`overlay_cases`): a variable changes
the one place that it names, and no other variable names that place.
-/

namespace Widgetry

open Toml (Value lookup?)
open Settings (Environment overlay overlayAll variableValue settingName? pathOf put)

/-! ## 1. The variable of a setting -/

namespace Setting

/-- The name of a variable that spells out a section and a key in it. -/
def spelledOut (group key : String) : String :=
  String.ofList
    ("STORYWEAVE__".toList ++ group.toList.map Char.toUpper ++ "__".toList
      ++ key.toList.map Char.toUpper)

/-- The variable of a setting. -/
def variableName (s : Setting) : String := spelledOut s.group s.key

/-- The name of a setting, as its variable spells it out. -/
def dotted (s : Setting) : List Char := s.group.toList ++ '.' :: s.key.toList

/-- The keys that lead to a setting. -/
def path (s : Setting) : List String := [s.group, s.key]

theorem settingName?_variableName (s : Setting) :
    settingName? s.variableName = some s.dotted := by
  cases s <;> decide +kernel

theorem pathOf_dotted (s : Setting) : pathOf s.dotted = s.path.map .key := by
  cases s <;> decide +kernel

/-- Settings with different variables stand at different places. -/
theorem path_ne {s s' : Setting} (h : s'.variableName ≠ s.variableName) : s'.path ≠ s.path := by
  intro heq
  simp only [path, List.cons.injEq, and_true] at heq
  have hname : spelledOut s'.group s'.key = spelledOut s.group s.key := by rw [heq.1, heq.2]
  exact h hname

end Setting

/-- Variables that name a setting at all are the variables of the settings, in capitals. -/
def NamesSettings (entries : List (String × String)) : Prop :=
  ∀ e ∈ entries, settingName? e.1 ≠ none → ∃ s : Setting, e.1 = s.variableName

instance (entries : List (String × String)) : Decidable (NamesSettings entries) :=
  decidable_of_iff
    (∀ e ∈ entries, settingName? e.1 ≠ none → ∃ s ∈ Setting.all, e.1 = s.variableName)
    (by simp only [NamesSettings, Setting.mem_all, true_and])

theorem NamesSettings.tail {e : String × String} {rest : List (String × String)}
    (h : NamesSettings (e :: rest)) : NamesSettings rest :=
  fun e' he' => h e' (List.mem_cons_of_mem _ he')

/-! ## 2. One variable -/

theorem isTable_variableValue (setting : List Char) (text : String) :
    (variableValue setting text).isTable = false := by
  simp only [variableValue]
  split
  · rfl
  · split
    · rfl
    · split
      · rfl
      · split
        · rfl
        · split <;> rfl

theorem overlay_variableName (v : Value) (s : Setting) (text : String) :
    overlay v (s.variableName, text)
      = put v (s.path.map .key) (variableValue s.dotted text) := by
  simp only [overlay, s.settingName?_variableName, s.pathOf_dotted]

/-- What one variable can do: nothing, or it is the variable of a setting and puts its value at the
place of the setting. -/
theorem overlay_cases {e : String × String} {rest : List (String × String)}
    (h : NamesSettings (e :: rest)) (v : Value) :
    overlay v e = v ∨ ∃ s : Setting, e.1 = s.variableName
      ∧ overlay v e = put v (s.path.map .key) (variableValue s.dotted e.2) := by
  by_cases hname : settingName? e.1 = none
  · exact .inl (by simp only [overlay, hname])
  · obtain ⟨s, hs⟩ := h e List.mem_cons_self hname
    refine .inr ⟨s, hs, ?_⟩
    rw [← overlay_variableName, ← hs]

/-- A value put at the place of one setting leaves what stands at the place of another one. -/
theorem get?_put_path_of_ne {s s' : Setting} (h : s'.path ≠ s.path) (v new : Value) :
    (put v (s'.path.map .key) new).get? s.path = v.get? s.path := by
  by_cases hgroup : s.group = s'.group
  · have hkey : s.key ≠ s'.key := fun hkey => h (by rw [Setting.path, Setting.path, hgroup, hkey])
    rw [Setting.path, Setting.path, hgroup, List.map_cons, Settings.get?_put_cons, List.map_cons,
      Settings.get?_put_of_ne hkey]
    simp only [Value.get?]
    cases lookup? s'.group v.entries <;> rfl
  · exact Settings.get?_put_of_ne hgroup _ _ _ v

/-- There is a table under a key. -/
def IsTableAt (group : String) (v : Value) : Prop := ∃ es, v.get? [group] = some (.table es)

theorem isTableAt_put_path (v : Value) (s : Setting) (new : Value) :
    IsTableAt s.group (put v (s.path.map .key) new) := by
  rw [Setting.path, List.map_cons, IsTableAt, Settings.get?_put_cons]
  exact ⟨_, rfl⟩

theorem get?_group_put_path {s : Setting} {group : String} (h : s.group ≠ group) (v new : Value) :
    (put v (s.path.map .key) new).get? [group] = v.get? [group] :=
  Settings.get?_put_of_ne (Ne.symm h) _ _ _ v

theorem IsTableAt.overlay {e : String × String} {rest : List (String × String)}
    (h : NamesSettings (e :: rest)) {group : String} {v : Value} (hv : IsTableAt group v) :
    IsTableAt group (overlay v e) := by
  rcases overlay_cases h v with hkept | ⟨s, -, hput⟩
  · rw [hkept]
    exact hv
  · rw [hput]
    by_cases hgroup : s.group = group
    · exact hgroup ▸ isTableAt_put_path v s _
    · rw [IsTableAt, get?_group_put_path hgroup]
      exact hv

/-! ## 3. All variables -/

/-- What stands at the place of a setting when all variables are put on: the value of its own
variable, or else what stood there before. -/
theorem get?_foldl_overlay (s : Setting) {entries : List (String × String)}
    (hasc : Ascending entries) (h : NamesSettings entries) (v : Value) :
    (entries.foldl overlay v).get? s.path
      = (((entries.find? fun e => e.1 == s.variableName).map Prod.snd).map
          (variableValue s.dotted)).or (v.get? s.path) := by
  induction entries generalizing v with
  | nil => rfl
  | cons e rest ih =>
    obtain ⟨hall, hrest⟩ := List.pairwise_cons.1 hasc
    rw [List.foldl_cons, ih hrest h.tail]
    by_cases he : e.1 = s.variableName
    · -- No further variable has the name of this one, so the value stays.
      have hnone : (rest.find? fun e => e.1 == s.variableName) = none := by
        rw [List.find?_eq_none]
        intro e' he' heq
        exact Std.ne_of_lt (hall e' he') (he.trans (beq_iff_eq.1 heq).symm)
      have hput : overlay v e = put v (s.path.map .key) (variableValue s.dotted e.2) := by
        rw [← overlay_variableName, ← he]
      rw [hnone, hput, Settings.get?_put_self (isTable_variableValue _ _)]
      simp [he]
    · have hkept : (overlay v e).get? s.path = v.get? s.path := by
        rcases overlay_cases h v with hkept | ⟨s', hs', hput⟩
        · rw [hkept]
        · rw [hput, get?_put_path_of_ne (Setting.path_ne (hs' ▸ he))]
      rw [hkept, List.find?_cons_of_neg (by simpa using he)]

theorem isTableAt_foldl_overlay {group : String} {entries : List (String × String)}
    (h : NamesSettings entries) {v : Value}
    (hv : IsTableAt group v
      ∨ ∃ s : Setting, s.group = group ∧ ∃ e ∈ entries, e.1 = s.variableName) :
    IsTableAt group (entries.foldl overlay v) := by
  induction entries generalizing v with
  | nil =>
    rcases hv with hv | ⟨s, -, e, he, -⟩
    · exact hv
    · cases he
  | cons e rest ih =>
    rw [List.foldl_cons]
    refine ih h.tail ?_
    rcases hv with hv | ⟨s, hgroup, e', he', hs⟩
    · exact .inl (hv.overlay h)
    · rcases List.mem_cons.1 he' with rfl | he'
      · have hput : overlay v e' = put v (s.path.map .key) (variableValue s.dotted e'.2) := by
          rw [← overlay_variableName, ← hs]
        exact .inl (hput ▸ hgroup ▸ isTableAt_put_path v s _)
      · exact .inr ⟨s, hgroup, e', he', hs⟩

theorem get?_group_foldl_overlay {group : String} {entries : List (String × String)}
    (h : NamesSettings entries)
    (hgroup : ∀ s : Setting, s.group = group → ∀ e ∈ entries, e.1 ≠ s.variableName) (v : Value) :
    (entries.foldl overlay v).get? [group] = v.get? [group] := by
  induction entries generalizing v with
  | nil => rfl
  | cons e rest ih =>
    rw [List.foldl_cons,
      ih h.tail fun s hs e' he' => hgroup s hs e' (List.mem_cons_of_mem _ he')]
    rcases overlay_cases h v with hkept | ⟨s, hs, hput⟩
    · rw [hkept]
    · rw [hput, get?_group_put_path fun heq => hgroup s heq e List.mem_cons_self hs]

end Widgetry
