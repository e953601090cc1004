import Widgetry.Proofs.Service.Memo
import Widgetry.Proofs.Service.Served

/-!
Resubmitted responses. A client may decode the text of a response's description, and send the
description back under the response's id to be edited. Main statement: as long as the model fails,
that gives the response back but for the time, however often it is done and whatever was served to
begin with (`resubmitted_without_drift`).

Three things have to be at rest on a served response for that: its description is read back from its
text, its ids need no repair, and its code and its snippet are those that rendering makes of it
(`Servable.rendered_eq`).
-/

namespace Widgetry.Service

/-- A client that sends a response back to a service: the model and the state of the service at that
time, the instruction, and the way in which the client writes documents as texts. -/
structure Resubmission (σ : Type) where
  service : Service
  model : Model
  state : ServiceState σ
  instruction : String
  write : Json.Value → String
  saves : ∀ v : Json.Value, v.SavedAs (write v)

namespace Resubmission

variable {σ : Type}

/-- Sends a response back: the text of its description is decoded and edited under its id. There is
no answer if the text cannot be decoded or the edit fails. -/
def resubmit (x : Resubmission σ) (r : Response) : Option Response :=
  match Description.parse (x.write r.widget.value) with
  | .error _ => none
  | .ok d =>
    match (x.service.edit x.model r.widgetId x.instruction d x.state).1.result with
    | .error _ => none
    | .ok r' => some r'

/-- Sends a response back, the answer to this once more, and so on. -/
def resubmitAll (xs : List (Resubmission σ)) (r : Response) : Option Response :=
  xs.foldlM (fun r x => x.resubmit r) r

/-- The model fails on a description that is sent back. -/
def Fails (x : Resubmission σ) (d : Description) : Prop :=
  ∃ e, x.model.edit d x.instruction = .error e

end Resubmission

open Resubmission

variable {s : Service} {σ : Type}

/-- A servable response is what its description is rendered to, but for the time. -/
theorem Servable.rendered_eq {r : Response} (h : s.Servable r) (timestamp : String) :
    s.rendered r.widget r.widgetId timestamp = { r with timestamp } := by
  obtain ⟨⟨hids, ⟨source, hemit, hreact⟩, hembed⟩, -⟩ := h
  have hrepaired : r.widget.repaired = r.widget := Description.repaired_of_nodup hids
  have hsource : (Component.layout r.widget).source = source := by
    have hown := Component.emit_repaired r.widget
    rw [hrepaired, hemit] at hown
    exact (Except.ok.inj hown).symm
  rw [rendered, hrepaired, hsource, ← hreact, ← hembed]

/-- Sent back to a model that fails, a servable response comes back with the time of this edit. -/
theorem Servable.resubmit_eq {r : Response} (h : s.Servable r) {x : Resubmission σ}
    (hcdn : x.service.cdn = s.cdn) (hfails : x.Fails r.widget) :
    x.resubmit r
      = some { r with timestamp := x.service.editTime x.state.edits } := by
  obtain ⟨e, he⟩ := hfails
  have hparse : Description.parse (x.write r.widget.value) = .ok r.widget :=
    Description.parse_saved h.tags (x.saves _)
  have hedited : edited x.model x.instruction r.widget = r.widget := by
    rw [edited, he]
  rw [resubmit, hparse]
  dsimp only
  rw [edit_eq, hedited, rendered_congr hcdn, h.rendered_eq]

/-- Another time changes nothing about a response that a client could notice by sending it back. -/
theorem Servable.at_time {r : Response} (h : s.Servable r) (timestamp : String) :
    s.Servable { r with timestamp } where
  coherent := ⟨h.coherent.ids, h.coherent.react, h.coherent.embed⟩
  tags := h.tags

theorem Servable.resubmitAll_eq {r : Response} (h : s.Servable r) {xs : List (Resubmission σ)}
    (hxs : ∀ x ∈ xs, x.service.cdn = s.cdn ∧ x.Fails r.widget) :
    ∃ timestamp, resubmitAll xs r = some { r with timestamp } := by
  -- only the time changes from one round to the next, so the response stays servable
  induction xs generalizing r with
  | nil => exact ⟨r.timestamp, rfl⟩
  | cons x xs ih =>
    obtain ⟨⟨hcdn, hfails⟩, hrest⟩ := List.forall_mem_cons.1 hxs
    obtain ⟨timestamp, hall⟩ :=
      ih (h.at_time (x.service.editTime x.state.edits)) hrest
    refine ⟨timestamp, ?_⟩
    rw [resubmitAll, List.foldlM_cons, h.resubmit_eq hcdn hfails]
    exact hall

/-- **Served responses can be sent back without drift.** Whatever the service has handed out, its
description can be decoded from its text and sent back under its id to any service at the same
address. If the model fails, the answer has the same id, description, code and snippet; and the
answer to that one has them too, any number of times. -/
theorem resubmitted_without_drift {r : Response} (h : s.Served r) {xs : List (Resubmission σ)}
    (hxs : ∀ x ∈ xs, x.service.cdn = s.cdn ∧ x.Fails r.widget) :
    ∃ timestamp, resubmitAll xs r = some { r with timestamp } :=
  h.servable.resubmitAll_eq hxs

/-- Sent back twice, once as a compact text and once as an indented one, to services that agree in
nothing but their address. -/
def twinsRounds : List (Resubmission Unit) :=
  [⟨twinsService, twinsModel, ⟨(), 7, 2⟩, "bigger", Json.Value.compact, fun _ => .compact⟩,
   ⟨{ numberedService with cdn := twinsService.cdn }, overloadedModel, ⟨(), 0, 0⟩, "",
    Json.Value.pretty, fun _ => .indented⟩]

theorem resubmitted_without_drift_twins :
    twinsService.Served twinsResponse
      ∧ (∀ x ∈ twinsRounds, x.service.cdn = twinsService.cdn ∧ x.Fails twinsResponse.widget)
      ∧ ∃ timestamp, resubmitAll twinsRounds twinsResponse
        = some { twinsResponse with timestamp } := by
  have hrounds : ∀ x ∈ twinsRounds,
      x.service.cdn = twinsService.cdn ∧ x.Fails twinsResponse.widget := by
    intro x hx
    simp only [twinsRounds, List.mem_cons, List.not_mem_nil, or_false] at hx
    rcases hx with rfl | rfl
    · exact ⟨rfl, _, rfl⟩
    · exact ⟨rfl, _, rfl⟩
  exact ⟨served_twinsResponse, hrounds, resubmitted_without_drift served_twinsResponse hrounds⟩

end Widgetry.Service
