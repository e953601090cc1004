import Widgetry.Proofs.Json.Holding
import Widgetry.Proofs.Json.Likeness
import Widgetry.Proofs.Json.Printing
import Widgetry.Proofs.Json.Written

/-!
Plain values. What a program writes of its own data is made of texts, arrays and objects that repeat
no key, nested only as deep as its types are (`Value.Plain`). A plain value survives everything that
may happen to it between two programs. Whichever text it is saved as holds it (`Plain.holds`), and
when its members are put in order it stays plain (`Plain.sorted`), so that a decoder makes the same
of it before and after (`Decoder.Agrees.reads_sorted`, `Decoder.Agrees.ofValue_sorted`).
-/

namespace Widgetry.Json

/-! ## 1. Plain values -/

namespace Value

variable {v : Value} {m n : Nat}

theorem Everywhere.imp {P Q : Value → Prop} (h : v.Everywhere P) (hPQ : ∀ w, P w → Q w) :
    v.Everywhere Q := by
  induction h with
  | intro here _ ih => exact .intro (hPQ _ here) ih

/-- Texts and arrays are plain as far as they go, and objects that repeat no key. -/
def PlainHere : Value → Prop
  | .text _ | .array _ => True
  | .object members => (members.map Prod.fst).Nodup
  | _ => False

/-- A value made of plain parts, with at most so many arrays and objects inside one another. -/
structure Plain (v : Value) (n : Nat) : Prop where
  parts : v.Everywhere PlainHere
  nesting : v.nesting ≤ n

theorem plain_text (s : String) (n : Nat) : (text s).Plain n where
  parts := (everywhere_text s).2 trivial
  nesting := Nat.zero_le n

theorem plain_array {items : List Value} (h : ∀ v ∈ items, v.Plain n) :
    (array items).Plain (n + 1) where
  parts := (everywhere_array items).2 ⟨trivial, fun v hv => (h v hv).parts⟩
  nesting := by
    rw [Value.nesting]
    exact Nat.succ_le_succ (nestingOfItems_le_iff.2 fun v hv => (h v hv).nesting)

theorem plain_object {members : List (String × Value)} (hkeys : (members.map Prod.fst).Nodup)
    (h : ∀ m ∈ members, m.2.Plain n) : (object members).Plain (n + 1) where
  parts := (everywhere_object members).2 ⟨hkeys, fun m hm => (h m hm).parts⟩
  nesting := by
    rw [Value.nesting]
    exact Nat.succ_le_succ (nestingOfMembers_le_iff.2 fun m hm => (h m hm).nesting)

/-- A record that is written in declared order is plain if the values of its fields are. -/
theorem plain_written {names : List String} {values : List (Option Value)}
    (hnames : names.Nodup) (h : ∀ v, some v ∈ values → v.Plain n) :
    (object (written names values)).Plain (n + 1) := by
  refine plain_object (hnames.sublist (keys_written_sublist names values)) ?_
  intro m hm
  exact h m.2 (mem_values_of_mem_written hm)

theorem Plain.mono (h : v.Plain m) (hmn : m ≤ n) : v.Plain n :=
  ⟨h.parts, Nat.le_trans h.nesting hmn⟩

/-- A plain value has no numbers that could be read otherwise. -/
theorem Plain.legible (h : v.Plain n) : v.Legible := by
  refine h.parts.imp ?_
  intro w hw
  cases w with
  | number n => exact absurd hw (by simp [PlainHere])
  | _ => trivial

theorem Plain.distinctKeys (h : v.Plain n) : v.DistinctKeys := by
  refine h.parts.imp ?_
  intro w hw
  cases w with
  | object members => exact hw
  | _ => trivial

/-- Putting the members of its objects in order leaves a value plain. -/
theorem Plain.sorted (h : v.Plain n) : v.sorted.Plain n := by
  induction v using Value.induction generalizing n with
  | null => exact h
  | bool b => exact h
  | number k => exact h
  | text s => exact h
  | array items ih =>
    obtain ⟨k, rfl, hdepth⟩ := exists_of_nesting_array_le h.nesting
    have hparts := ((everywhere_array items).1 h.parts).2
    rw [sorted_array]
    refine plain_array ?_
    intro w hw
    obtain ⟨v, hv, rfl⟩ := List.mem_map.1 hw
    exact ih v hv ⟨hparts v hv, hdepth v hv⟩
  | object members ih =>
    obtain ⟨k, rfl, hdepth⟩ := exists_of_nesting_object_le h.nesting
    obtain ⟨hkeys, hparts⟩ := (everywhere_object members).1 h.parts
    rw [sorted_object]
    refine plain_object (nodup_keys_sortedMembers members) ?_
    intro m hm
    obtain ⟨m', hm', rfl⟩ := exists_of_mem_sortedMembers hkeys hm
    exact ih m' hm' ⟨hparts m' hm', hdepth m' hm'⟩

/-- Under every key the sorted value has what the value has there, sorted. -/
theorem member?_sorted (h : v.DistinctKeys) (key : String) :
    v.sorted.member? key = (v.member? key).map Value.sorted := by
  cases v with
  | object members =>
    rw [sorted_object]
    exact member?_sortedMembers ((everywhere_object members).1 h).1 key
  | array items =>
    rw [sorted_array]
    rfl
  | _ => rfl

/-- The texts that a value is saved as: compact, indented, or indented as it is printed, with the
end of the line behind it. -/
inductive SavedAs (v : Value) : String → Prop
  | compact : SavedAs v v.compact
  | indented : SavedAs v v.pretty
  | printed : SavedAs v (v.pretty ++ "\n")

/-- A plain value is held by all texts that it is saved as. -/
theorem Plain.holds (h : v.Plain n) (hn : n ≤ deepest) {text : String} (htext : v.SavedAs text) :
    Holds text v := by
  refine ⟨?_, Nat.le_trans h.nesting hn⟩
  cases htext with
  | compact => exact ofText_compact h.legible
  | indented => exact ofText_pretty h.legible
  | printed =>
    have htokens : Json.tokens (v.printIndented 0 ++ ['\n']) = v.tokens ++ Json.tokens ['\n'] :=
      tokens_printIndented h.legible 0 (endsNumber_cons (by decide) [])
    have hbreak : Json.tokens ['\n'] = [] := by
      rw [tokens_gap (by decide), Json.tokens]
    apply Raw.ofText_eq
    rw [pretty, String.toList_append, String.toList_ofList]
    show Json.tokens (v.printIndented 0 ++ ['\n']) = v.tokens
    rw [htokens, hbreak, List.append_nil]

end Value

/-! ## 3. Decoding -/

namespace Decoder.Agrees

variable {α : Type} {read : Decoder α} {l : Likeness} {v : Value} {o o' : Origin} {d d' : Depth}

/-- A decoder makes the same of a value whose members were put in order. -/
theorem reads_sorted (h : read.Agrees l) (hv : v.Plain d) (hd : v.sorted.nesting ≤ d') (a : α) :
    read o' d' v.sorted.raw = .ok a ↔ read o d v.raw = .ok a := by
  have hkeys := hv.distinctKeys
  have hkeys' := hv.sorted.distinctKeys
  have hlike : l v.sorted v := h.lawful.of_same hkeys' hkeys (sorted_sorted hkeys)
  exact h.reads hkeys' hkeys hd hv.nesting hlike a

/-- So it does of the value that a text was read to before. -/
theorem ofValue_sorted (h : read.Agrees l) (hv : v.Plain d) (a : α) :
    read.ofValue v.sorted = .ok a ↔ read o d v.raw = .ok a := by
  rw [Decoder.ofValue, mapError_eq_ok_iff]
  exact h.reads_sorted hv (Nat.le_refl _) a

end Decoder.Agrees

end Widgetry.Json
