import Widgetry.Model.Prompt
import Widgetry.Proofs.Json.Delimited
import Widgetry.Proofs.Widget.RoundTrip
import Widgetry.Proofs.Widget.Whole

/-!
Messages that show a document. The message of an edit is fixed text around a document and the user's
own words, none of which is escaped. It can be told apart all the same (`Prompt.shows_edit`): the
document is in braces, so it ends where its first brace is closed, whatever its titles and labels
hold, and it is read back. What follows it is fixed text up to the words, and fixed text again from
their end to the end of the message.
-/

namespace Widgetry

open Json (IsDocument)

/-! ## 1. The document of a description -/

/-- The document of a description is in braces. -/
theorem Description.ends_pretty (d : Description) :
    d.value.pretty.toList.head? = some '{' ∧ d.value.pretty.toList.getLast? = some '}' := by
  have hobject : ∃ ms, d.value = .object ms := ⟨_, d.value_eq⟩
  obtain ⟨ms, hms⟩ := hobject
  rw [hms, Json.Value.pretty, String.toList_ofList]
  cases ms with
  | nil => exact ⟨rfl, rfl⟩
  | cons m ms =>
    rw [Json.Value.printIndented]
    exact ⟨rfl, List.getLast?_concat⟩

theorem Description.parse_pretty {d : Description} (hd : d.OwnsTags) :
    parse d.value.pretty = .ok d :=
  parse_of_ofText_eq hd (Json.ofText_pretty d.legible_value)

theorem Description.isDocument_pretty {d : Description} (hd : d.OwnsTags) :
    IsDocument d.value.pretty :=
  (Json.RecordKind.wholly_decoder wholly_fields).isDocument (parse_pretty hd)

/-! ## 2. Messages -/

namespace Prompt

/-- A message that shows a description and words of the user, and can be read in no other way. -/
structure Shows (message : String) (d : Description) (words : String) : Prop where
  parts : message = editOpening ++ d.value.pretty ++ editSeparator ++ words ++ editEnding
  document : IsDocument d.value.pretty
  parsed : Description.parse d.value.pretty = .ok d
  /-- A document that begins where the opening ends is the one that is shown, with white space
  behind it. -/
  only : ∀ part rest, message = editOpening ++ part ++ rest → IsDocument part →
    Description.parse part = .ok d
      ∧ ∃ blanks, part = d.value.pretty ++ blanks ∧ ∀ c ∈ blanks.toList, Json.isGap c = true
  /-- The message is that of no other edit. -/
  unique : ∀ d' words', d'.OwnsTags → edit d' words' = message → d' = d ∧ words' = words

theorem edit_eq (d : Description) (words : String) :
    edit d words = editOpening ++ (d.value.pretty ++ (editSeparator ++ (words ++ editEnding))) := by
  simp only [edit, String.append_assoc]

/-- A document that stands in the place of a description's one is the same, up to white space behind
it, and is read as the description. -/
theorem parse_of_edit_eq {d : Description} (hd : d.OwnsTags) {words part rest : String}
    (h : edit d words = editOpening ++ (part ++ rest)) (hpart : IsDocument part) :
    Description.parse part = .ok d
      ∧ ∃ blanks, part = d.value.pretty ++ blanks
        ∧ ∀ c ∈ blanks.toList, Json.isGap c = true := by
  rw [edit_eq, String.append_right_inj] at h
  obtain ⟨hfirst, hlast⟩ := d.ends_pretty
  have hshown := Description.isDocument_pretty hd
  obtain ⟨blanks, rfl, hblanks⟩ := hshown.eq_append_of_append_eq hfirst hlast hpart h.symm
  have hparse := Description.parse_pretty hd
  rw [Description.parse, Json.Decoder.ofText, Json.readText_eq_ok_iff,
    ← hshown.ofText_append hfirst hblanks] at hparse
  exact ⟨Json.readText_eq_ok_iff.2 hparse, blanks, rfl, hblanks⟩

theorem edit_inj {d d' : Description} (hd : d.OwnsTags) (hd' : d'.OwnsTags) {words words' : String}
    (h : edit d words = edit d' words') : d = d' ∧ words = words' := by
  obtain ⟨hparse, -⟩ :=
    parse_of_edit_eq hd (h.trans (edit_eq d' words')) (Description.isDocument_pretty hd')
  rw [Description.parse_pretty hd'] at hparse
  obtain rfl : d' = d := Except.ok.inj hparse
  rw [edit_eq, edit_eq, String.append_right_inj, String.append_right_inj, String.append_right_inj,
    String.append_left_inj] at h
  exact ⟨rfl, h⟩

/-- The message of an edit shows the document and the words, whatever is in them. -/
theorem shows_edit {d : Description} (hd : d.OwnsTags) (words : String) :
    Shows (edit d words) d words where
  parts := rfl
  document := Description.isDocument_pretty hd
  parsed := Description.parse_pretty hd
  only _ _ h hpart := parse_of_edit_eq hd (h.trans (String.append_assoc ..)) hpart
  unique _ _ hd' h := edit_inj hd' hd h

end Prompt

end Widgetry
