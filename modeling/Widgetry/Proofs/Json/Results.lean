import Widgetry.Proofs.Json.Decoding
import Widgetry.Proofs.Json.Record

/-!
What holds of all results. A decoder ensures a property if everything that it gives has it, whatever
tree it reads, also one that is cut off or has members twice. Lists, defaults and records ensure
what their parts do: a property of the fields read so far that the start has and every field keeps
is had by what a record is made of (`RecordKind.exists_of_decoder_eq_ok`).

Unlike the statements about trees of values these hold of every tree, so they speak of what clients
and models really send: of texts that repeat a key, break off, or are no document. The main use is
that every description that was decoded owns its tags.
-/

namespace Widgetry.Json

/-! ## 1. Lists and defaults -/

namespace Decoder

variable {α : Type} {P : α → Prop} {read : Decoder α}

/-- Whatever is read has a property. -/
def Ensures (read : Decoder α) (P : α → Prop) : Prop :=
  ∀ {o d r a}, read o d r = .ok a → P a

theorem Ensures.nullable (h : read.Ensures P) :
    (nullable read).Ensures fun a => ∀ b, a = some b → P b := by
  intro o d r a ha b hb
  have hmap (r : Raw) (hr : (read o d r).map some = .ok a) : P b := by
    cases hread : read o d r with
    | error e => simp [hread, Except.map] at hr
    | ok c =>
      obtain rfl : c = b := by simpa [hread, hb, Except.map] using hr
      exact h hread
  cases r with
  | null => simp [Decoder.nullable, hb] at ha
  | _ => exact hmap _ ha

theorem Ensures.orDefault {default : α} (hdefault : P default) (h : read.Ensures P) :
    (orDefault default read).Ensures P := by
  intro o d r a ha
  obtain ⟨b, hread, hb⟩ := exists_of_bind_eq_ok ha
  obtain rfl : b.getD default = a := Except.ok.inj hb
  cases b with
  | none => exact hdefault
  | some c => exact h.nullable hread c rfl

theorem forall_mem_of_items {read : Raw → Except Trouble α} (h : ∀ r a, read r = .ok a → P a)
    {xs : Items} {as : List α} (has : items read xs = .ok as) : ∀ a ∈ as, P a := by
  fun_induction items read xs generalizing as with
  | case1 => simp [← Except.ok.inj has]
  | case2 f => simp at has
  | case3 item rest ih =>
    obtain ⟨a, hitem, has⟩ := exists_of_bind_eq_ok has
    obtain ⟨bs, hrest, has⟩ := exists_of_bind_eq_ok has
    obtain rfl : a :: bs = as := Except.ok.inj has
    exact List.forall_mem_cons.2
      ⟨h item a (mapError_eq_ok_iff.1 hitem), ih (mapError_eq_ok_iff.1 hrest)⟩

/-- Every item of a list that is read has what the decoder of items ensures. -/
theorem Ensures.list (h : read.Ensures P) : (list read).Ensures fun as => ∀ a ∈ as, P a := by
  intro o d r as has
  cases r with
  | array xs =>
    obtain ⟨d', -, has⟩ := exists_of_bind_eq_ok has
    exact forall_mem_of_items (fun _ _ hr => h hr) has
  | _ => simp [Decoder.list] at has

/-- What is decoded from a text has what the decoder ensures. -/
theorem Ensures.of_ofText (h : read.Ensures P) {text : String} {a : α}
    (ha : read.ofText text = .ok a) : P a :=
  h (of_ofText_eq_ok ha).1

end Decoder

/-! ## 2. Records -/

variable {σ ρ : Type} {I : σ → Prop}

/-- A slot keeps what setting it to any result keeps. -/
theorem RecordField.keeps_slot {α : Type} {name : String} {get : σ → Option α}
    {set : Option α → σ → σ} {read : Decoder α}
    (h : read.Ensures fun a => ∀ s, I s → I (set (some a) s)) :
    ∀ p, (slot name get set read).Puts p → ∀ s, I s → I (p s) := by
  intro p hp
  obtain ⟨o, d, r, a, ha, rfl⟩ := exists_of_puts_slot hp
  exact h ha

namespace RecordKind

theorem of_readMembers {fields : List (RecordField σ)}
    (hput : ∀ f ∈ fields, ∀ p, f.Puts p → ∀ s, I s → I (p s)) {o : Origin} {d : Depth}
    {ms : Members} {s s' : σ} (hs : I s) (h : readMembers fields o d ms s = .ok s') : I s' := by
  fun_induction readMembers fields o d ms s with
  | case1 s => exact Except.ok.inj h ▸ hs
  | case4 key v rest s hfind hskip ih => exact ih hs (mapError_eq_ok_iff.1 h)
  | case7 key v rest s field hfind hfilled put hread ih =>
    exact ih (hput field (List.mem_of_find?_eq_some hfind) put ⟨o, d, v, hread⟩ s hs)
      (mapError_eq_ok_iff.1 h)
  | _ => simp at h

theorem of_readItems {fields : List (RecordField σ)}
    (hput : ∀ f ∈ fields, ∀ p, f.Puts p → ∀ s, I s → I (p s)) {o : Origin} {d : Depth}
    {xs rest : Items} {s s' : σ} (hs : I s) (h : readItems o d fields xs s = .ok (s', rest)) :
    I s' := by
  fun_induction readItems o d fields xs s with
  | case1 xs s => simp_all
  | case2 => simp_all
  | case3 => simp at h
  | case4 field fields item rest' s put hread ih =>
    rw [List.forall_mem_cons] at hput
    exact ih hput.2 (hput.1 put ⟨o, d, item, hread⟩ s hs) (mapError_eq_ok_iff.1 h)
  | case5 => simp at h

/-- A record is made of fields of which everything holds that the start has and every field
keeps. -/
theorem exists_of_decoder_eq_ok {k : RecordKind σ ρ} (hstart : I k.start)
    (hput : ∀ f ∈ k.fields, ∀ p, f.Puts p → ∀ s, I s → I (p s)) {o : Origin} {d : Depth} {r : Raw}
    {a : ρ} (h : k.decoder o d r = .ok a) : ∃ s, I s ∧ k.complete s = .ok a := by
  cases r with
  | object ms =>
    obtain ⟨d', -, h⟩ := exists_of_bind_eq_ok h
    obtain ⟨s, hread, h⟩ := exists_of_bind_eq_ok h
    refine ⟨s, of_readMembers hput hstart hread, ?_⟩
    cases hcomplete : k.complete s with
    | error name => simp [hcomplete] at h
    | ok b =>
      rw [hcomplete] at h
      exact congrArg Except.ok (Except.ok.inj h)
  | array xs =>
    obtain ⟨d', -, h⟩ := exists_of_bind_eq_ok h
    obtain ⟨⟨s, rest⟩, hread, h⟩ := exists_of_bind_eq_ok h
    refine ⟨s, of_readItems hput hstart hread, ?_⟩
    cases hcomplete : k.complete s with
    | error name => simp [hcomplete] at h
    | ok b =>
      simp only [hcomplete] at h
      obtain ⟨-, -, h⟩ := exists_of_bind_eq_ok h
      exact congrArg Except.ok (Except.ok.inj h)
  | _ => simp [decoder] at h

end RecordKind

end Widgetry.Json
