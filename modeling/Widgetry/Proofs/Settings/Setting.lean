import Widgetry.Settings.Setting

/-!
The settings are read from a value exactly if each one is (`ofValue?_eq_some_iff`). They are read by
their list, each at its place or under its key in its section, with a type and a default of its own,
and what they are put together to is determined by what each of them is set to (`assemble_get`). So
what holds of every single setting holds of them all, and the proofs about loading never look at a
section as a whole.
-/

namespace Widgetry

open Toml (Value)

namespace Setting

/-- What a setting is set to is what the settings were put together from. -/
theorem get_assemble (f : (s : Setting) → s.Kind) (s : Setting) : s.get (assemble f) = f s := by
  cases s <;> rfl

/-- Settings are put together from what each is set to. -/
theorem assemble_get (S : Settings) : (assemble fun s => s.get S) = S := rfl

end Setting

namespace Settings

/-- A value is read as settings exactly if each setting is read from it. -/
theorem ofValue?_eq_some_iff {v : Value} {S : Settings} :
    ofValue? v = some S ↔ ∀ s : Setting, s.read? v = some (s.get S) := by
  unfold ofValue?
  split
  · rename_i hread
    rw [Option.some.injEq]
    constructor
    · rintro rfl s
      rw [Setting.get_assemble, Option.some_get]
    · intro h
      have hget : (fun s : Setting => (s.read? v).get (hread s s.mem_all)) = fun s => s.get S := by
        funext s
        exact Option.get_of_eq_some _ (h s)
      rw [hget, Setting.assemble_get]
  · rename_i hread
    refine iff_of_false nofun fun h => hread fun s _ => ?_
    rw [h s]
    rfl

/-- A value can be read as settings if each setting can be read from it. -/
theorem exists_ofValue?_eq_some {v : Value} (h : ∀ s : Setting, (s.read? v).isSome) :
    ∃ S, ofValue? v = some S := by
  refine ⟨Setting.assemble fun s => (s.read? v).get (h s), ofValue?_eq_some_iff.2 fun s => ?_⟩
  rw [Setting.get_assemble, Option.some_get]

end Settings

end Widgetry
