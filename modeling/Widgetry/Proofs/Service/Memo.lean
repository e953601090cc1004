import Widgetry.Proofs.Cache.Table
import Widgetry.Proofs.Service.Run

/-!
Generation as a table of prompts. Over the cache in the process a service remembers, for every
prompt up to white space around it, the response of the first step whose model call gave a
description or a failure that does not pass; later steps with this prompt get that response, and the
model is not called (`generate_memo`). The invariant of a run is that the cache holds exactly what
the events so far have left in it (`Memo`), and the fresh responses bear the stamps in the order in
which they were given out (`Stamped`).
-/

namespace Widgetry.Service

open Cache (Table inProcess)

/-! ## 1. What events leave behind -/

/-- Whether a reply of the model leaves its response in the cache: a description does, and so does a
failure that will not pass. -/
def isLasting : Except ModelError Description → Bool
  | .ok _ => true
  | .error e => !e.isRecoverable

theorem outcome_snd (reply : Except ModelError Description) :
    (outcome reply).2 = isLasting reply := by
  cases reply <;> rfl

namespace Event

/-- The response that was rendered afresh when a step generated and called the model. -/
def fresh? : Event → Option Response
  | ⟨.generate _ _, .answer ⟨.ok r, _ :: _⟩⟩ => some r
  | _ => none

/-- The response that a step left for a prompt: it was made for this prompt, up to white space
around it, and the model's reply was lasting. -/
def left? (prompt : String) : Event → Option Response
  | ⟨.generate model q, .answer ⟨.ok r, _ :: _⟩⟩ =>
    if Text.trimmed q = Text.trimmed prompt ∧ isLasting (model.generate q) = true then some r
    else none
  | _ => none

theorem fresh?_of_left? {prompt : String} {e : Event} {r : Response} (h : e.left? prompt = some r) :
    e.fresh? = some r := by
  unfold left? at h
  split at h
  · split at h
    · exact h
    · simp at h
  · simp at h

end Event

variable (s : Service)

/-- A step that generates: either the cache has a response and nothing changes, or the model is
called and a lasting reply's response is stored. -/
theorem act_generate_cases (model : Model) (prompt : String) (st : ServiceState Table) :
    (∃ r, st.cache.response? (cacheKey prompt) = some r
      ∧ s.act inProcess (.generate model prompt) st = (.answer ⟨.ok r, []⟩, st))
    ∨ (st.cache.response? (cacheKey prompt) = none
      ∧ s.act inProcess (.generate model prompt) st
        = (.answer ⟨.ok (s.freshResponse (model.generate prompt) (s.stamp st.issued)),
            [.generate prompt]⟩,
          ⟨if isLasting (model.generate prompt) then
              st.cache.put (cacheKey prompt)
                (s.freshResponse (model.generate prompt) (s.stamp st.issued)) s.ttl
            else st.cache,
            st.issued + 1, st.edits⟩)) := by
  cases hfound : st.cache.response? (cacheKey prompt) with
  | some r =>
    have hget : (inProcess.get (cacheKey prompt) st.cache).1 = .ok (some r) := by
      rw [← hfound]
      rfl
    refine .inl ⟨r, rfl, ?_⟩
    rw [act, generate_of_found s inProcess hget]
    rfl
  | none =>
    have hget : ∀ r, (inProcess.get (cacheKey prompt) st.cache).1 ≠ .ok (some r) := by
      intro r hr
      have : st.cache.response? (cacheKey prompt) = some r := Except.ok.inj hr
      simp [hfound] at this
    refine .inr ⟨rfl, ?_⟩
    rw [act, generate_of_not_found s inProcess hget, outcome_snd]
    rfl

/-! ## 2. The invariants of a run -/

/-- The cache holds, for every prompt, the first response that an event has left for it. -/
def Memo (past : List Event) (st : ServiceState Table) : Prop :=
  ∀ prompt, st.cache.response? (cacheKey prompt) = past.findSome? (Event.left? prompt)

/-- The fresh responses so far bear the stamps from the first one on, one after the other. -/
structure Stamped (first : Nat) (past : List Event) (st : ServiceState Table) : Prop where
  issued : st.issued = first + (past.filterMap Event.fresh?).length
  ids : (past.filterMap Event.fresh?).map (·.widgetId)
    = (List.range' first (past.filterMap Event.fresh?).length).map fun n => (s.stamp n).widgetId

variable {s}

theorem Memo.act {past : List Event} {st : ServiceState Table} (httl : 0 < s.ttl)
    (h : Memo past st) (a : Step) :
    Memo (past ++ [s.event inProcess a st]) (s.act inProcess a st).2 := by
  intro prompt
  rw [List.findSome?_append, ← h prompt]
  cases a with
  | generate model q =>
    rcases act_generate_cases s model q st with ⟨r, -, hact⟩ | ⟨hnone, hact⟩
    · simp [event, hact, Event.left?]
    rw [event, hact]
    cases hlasting : isLasting (model.generate q) with
    | false => simp [Event.left?, hlasting]
    | true =>
      by_cases hq : Text.trimmed q = Text.trimmed prompt
      · -- nothing was found under the key of this step, so it is the first one for its prompt
        rw [← cacheKey_inj.2 hq, hnone]
        simp [Event.left?, hlasting, hq, Table.response?_put_self _ _ _ httl]
      · have hkey : cacheKey prompt ≠ cacheKey q := fun heq => hq (cacheKey_inj.1 heq).symm
        simp [Event.left?, hq, Table.response?_put_of_ne hkey]
  | edit model widgetId instruction current =>
    simp [event, Service.act, Service.edit, Event.left?]
  | bundle response => simp [event, Service.act, Event.left?]

/-- Events without a fresh response take no stamp. -/
theorem Stamped.append_of_fresh?_eq_none {first : Nat} {past : List Event}
    {st st' : ServiceState Table} (h : s.Stamped first past st) {e : Event} (he : e.fresh? = none)
    (hst : st'.issued = st.issued) : s.Stamped first (past ++ [e]) st' := by
  have hpast : (past ++ [e]).filterMap Event.fresh? = past.filterMap Event.fresh? := by
    rw [List.filterMap_append, List.filterMap_cons_none he, List.filterMap_nil, List.append_nil]
  constructor
  · rw [hpast, hst]
    exact h.issued
  · rw [hpast]
    exact h.ids

theorem Stamped.act {first : Nat} {past : List Event} {st : ServiceState Table}
    (h : s.Stamped first past st) (a : Step) :
    s.Stamped first (past ++ [s.event inProcess a st]) (s.act inProcess a st).2 := by
  cases a with
  | generate model q =>
    rcases act_generate_cases s model q st with ⟨r, -, hact⟩ | ⟨-, hact⟩
    · rw [event, hact]
      exact h.append_of_fresh?_eq_none rfl rfl
    -- nothing was found, so this step uses up the next stamp
    · obtain ⟨hissued, hids⟩ := h
      have hfresh : (s.event inProcess (.generate model q) st).fresh?
          = some (s.freshResponse (model.generate q) (s.stamp st.issued)) := by
        rw [event, hact]
        rfl
      constructor
      · simp [hact, hfresh, hissued, Nat.add_assoc]
      · simp [hfresh, hids, List.range'_concat, hissued, freshResponse, rendered]
  | edit model widgetId instruction current =>
    exact h.append_of_fresh?_eq_none (by simp [event, Service.act, Event.fresh?]) rfl
  | bundle response => exact h.append_of_fresh?_eq_none rfl rfl

/-- The invariants hold of every run from an empty cache. -/
theorem memo_events (httl : 0 < s.ttl) (first edits : Nat) (steps : List Step) :
    Memo (s.events inProcess steps ⟨[], first, edits⟩) (s.after inProcess steps ⟨[], first, edits⟩) :=
  s.events_induction inProcess (fun _ _ a h => h.act httl a) (fun _ => rfl) steps

theorem stamped_events (first edits : Nat) (steps : List Step) :
    s.Stamped first (s.events inProcess steps ⟨[], first, edits⟩)
      (s.after inProcess steps ⟨[], first, edits⟩) :=
  s.events_induction inProcess (fun _ _ a h => h.act a) ⟨rfl, rfl⟩ steps

/-! ## 3. What a run hands out -/

/-- A step that generates hands out the first response that was left for its prompt, or else calls
the model and hands out a fresh response under the next stamp. -/
theorem reply_generate (httl : 0 < s.ttl) {first edits : Nat} {steps : List Step}
    {earlier later : List Event} {model : Model} {prompt : String} {reply : Reply}
    (h : s.events inProcess steps ⟨[], first, edits⟩
      = earlier ++ ⟨.generate model prompt, reply⟩ :: later) :
    reply = .answer (match earlier.findSome? (Event.left? prompt) with
      | some r => ⟨.ok r, []⟩
      | none => ⟨.ok (s.freshResponse (model.generate prompt)
          (s.stamp (first + (earlier.filterMap Event.fresh?).length))), [.generate prompt]⟩) := by
  obtain ⟨as, rfl, rfl⟩ := s.exists_of_events_eq inProcess h
  have hmemo := memo_events httl first edits as prompt
  have hissued := (stamped_events (s := s) first edits as).issued
  -- what was left by the events before is what the look-up finds, by the invariant
  rcases act_generate_cases s model prompt (s.after inProcess as ⟨[], first, edits⟩) with
    ⟨r, hfound, hact⟩ | ⟨hnone, hact⟩
  · rw [← hmemo, hfound, hact]
  · rw [← hmemo, hnone, hact, hissued]

/-- Fresh responses of a run have different ids, if all stamps do. -/
theorem pairwise_fresh_ne (hids : Function.Injective fun n => (s.stamp n).widgetId)
    (first edits : Nat) (steps : List Step) :
    (s.events inProcess steps ⟨[], first, edits⟩).Pairwise fun e f =>
      ∀ r, e.fresh? = some r → ∀ r', f.fresh? = some r' → r.widgetId ≠ r'.widgetId := by
  have hstamped := (stamped_events (s := s) first edits steps).ids
  rw [← List.pairwise_filterMap, ← List.pairwise_map, hstamped, List.pairwise_map]
  have hrange (n : Nat) : (List.range' first n).Nodup := List.nodup_range'
  exact (hrange _).imp fun hne heq => hne (hids heq)

/-- In a run whose stamps differ a fresh response belongs to one event. -/
theorem eq_of_fresh_id (hids : Function.Injective fun n => (s.stamp n).widgetId) {first edits : Nat}
    {steps : List Step} {e f : Event} (he : e ∈ s.events inProcess steps ⟨[], first, edits⟩)
    (hf : f ∈ s.events inProcess steps ⟨[], first, edits⟩) {r : Response} (hr : e.fresh? = some r)
    (hr' : f.fresh? = some r) : e = f := by
  have hne := pairwise_fresh_ne hids first edits steps
  refine List.Pairwise.forall_of_forall_of_flip (R := fun e f =>
      ∀ r, e.fresh? = some r → f.fresh? = some r → e = f) (fun _ _ _ _ _ => rfl)
    (hne.imp fun h r hr hr' => absurd rfl (h r hr r hr'))
    (hne.imp fun h r hr hr' => absurd rfl (h r hr' r hr)) he hf r hr hr'

/-- What was handed out after a failure that may pass is not handed out again. -/
theorem transient_ne (httl : 0 < s.ttl) (hids : Function.Injective fun n => (s.stamp n).widgetId)
    {first edits : Nat} {steps : List Step} {earlier later : List Event} {model : Model}
    {prompt : String} {reply : Reply}
    (h : s.events inProcess steps ⟨[], first, edits⟩
      = earlier ++ ⟨.generate model prompt, reply⟩ :: later)
    {model' : Model} {prompt' : String} {r : Response} {call : ModelCall} {calls : List ModelCall}
    (hpast : ⟨.generate model' prompt', .answer ⟨.ok r, call :: calls⟩⟩ ∈ earlier)
    (htransient : isLasting (model'.generate prompt') = false) (calls' : List ModelCall) :
    reply ≠ .answer ⟨.ok r, calls'⟩ := by
  have hreply := reply_generate httl h
  have hmem (e : Event) (he : e ∈ earlier) : e ∈ s.events inProcess steps ⟨[], first, edits⟩ := by
    rw [h]
    exact List.mem_append_left _ he
  cases hleft : earlier.findSome? (Event.left? prompt) with
  | some r' =>
    obtain ⟨e, he, her⟩ := List.exists_of_findSome?_eq_some hleft
    rw [hleft] at hreply
    rintro rfl
    obtain ⟨rfl, -⟩ : r = r' ∧ calls' = [] := by simpa using hreply
    -- the event that left this response would be the one after the failure
    have heq := eq_of_fresh_id hids (hmem _ he) (hmem _ hpast) (Event.fresh?_of_left? her) rfl
    simp [heq, Event.left?, htransient] at her
  | none =>
    rw [hleft] at hreply
    rintro rfl
    have hpairwise := pairwise_fresh_ne hids first edits steps
    rw [h] at hpairwise
    obtain ⟨-, rfl⟩ : _ ∧ calls' = [.generate prompt] := by simpa using hreply
    have hne := (List.pairwise_append.1 hpairwise).2.2 _ hpast _ List.mem_cons_self
    exact hne r rfl r rfl rfl

/-- Edits and bundles do not look into the cache, and take no stamp. -/
theorem act_eq_of_not_isGenerate {a : Step} (h : a.isGenerate = false) (st : ServiceState Table)
    (table : Table) (issued : Nat) :
    (s.act inProcess a st).1 = (s.act inProcess a ⟨table, issued, st.edits⟩).1 := by
  cases a with
  | generate => simp [Step.isGenerate] at h
  | edit => rfl
  | bundle => rfl

variable (s)

/-- A run in which generating works as a table of prompts.

A step that generates hands out the first response left for its prompt and does not call the model;
if there is none, it calls the model once and hands out a response rendered afresh. If stamps
differ, a response after a failure that may pass is never handed out again. Edits and bundles answer
from what they are given, and without them the run is the same otherwise. -/
structure IsMemo (first edits : Nat) (steps : List Step) : Prop where
  reply : ∀ {earlier later : List Event} {model : Model} {prompt : String} {reply : Reply},
    s.events inProcess steps ⟨[], first, edits⟩
      = earlier ++ ⟨.generate model prompt, reply⟩ :: later →
    match earlier.findSome? (Event.left? prompt) with
    | some r => reply = .answer ⟨.ok r, []⟩
    | none => ∃ r stamp, stamp = s.stamp (first + (earlier.filterMap Event.fresh?).length)
      ∧ s.render (outcome (model.generate prompt)).1 stamp.widgetId stamp.timestamp = .ok r
      ∧ reply = .answer ⟨.ok r, [.generate prompt]⟩
  transient : (Function.Injective fun n => (s.stamp n).widgetId) →
    ∀ {earlier later : List Event} {model : Model} {prompt : String} {reply : Reply},
    s.events inProcess steps ⟨[], first, edits⟩
      = earlier ++ ⟨.generate model prompt, reply⟩ :: later →
    ∀ {model' : Model} {prompt' : String} {r : Response} {call : ModelCall}
      {calls calls' : List ModelCall},
    ⟨.generate model' prompt', .answer ⟨.ok r, call :: calls⟩⟩ ∈ earlier →
    isLasting (model'.generate prompt') = false → reply ≠ .answer ⟨.ok r, calls'⟩
  own : ∀ e ∈ s.events inProcess steps ⟨[], first, edits⟩, e.step.isGenerate = false →
    ∃ n, ∀ (table : Table) (issued : Nat),
      e.reply = (s.act inProcess e.step ⟨table, issued, n⟩).1
  apart : s.events inProcess (steps.filter Step.isGenerate) ⟨[], first, edits⟩
    = (s.events inProcess steps ⟨[], first, edits⟩).filter (·.step.isGenerate)

variable {s}

/-- **Generating works as a table of prompts**, in every run over a cache that keeps its
responses. -/
theorem generate_memo (httl : 0 < s.ttl) (first edits : Nat) (steps : List Step) :
    s.IsMemo first edits steps where
  reply := by
    intro earlier later model prompt reply h
    have hreply := reply_generate httl h
    split
    · rename_i r hleft
      rw [hreply, hleft]
    · rename_i hleft
      rw [hleft] at hreply
      exact ⟨_, _, rfl, s.render_eq_ok _ _ _, hreply⟩
  transient hids _ _ _ _ _ h _ _ _ _ _ calls' hpast htransient :=
    transient_ne httl hids h hpast htransient calls'
  own := by
    rintro ⟨a, reply⟩ he ha
    obtain ⟨earlier, later, h⟩ := List.append_of_mem he
    obtain ⟨as, -, rfl⟩ := s.exists_of_events_eq inProcess h
    exact ⟨_, act_eq_of_not_isGenerate ha _⟩
  apart := s.events_filter inProcess steps ⟨[], first, edits⟩ edits

/-- A service with numbered stamps. -/
def numberedService : Service where
  cdn := Component.defaultCdn
  ttl := 1000
  stamp n := ⟨suffixed "widget" n, "2024-01-01T00:00:00Z"⟩
  editTime _ := "2024-01-02T00:00:00Z"

/-- A model that is overloaded. -/
def overloadedModel : Model :=
  ⟨fun _ => .error (.api 503 "overloaded"), fun _ _ => .error (.api 503 "overloaded")⟩

/-- A model that was never set up. -/
def absentModel : Model :=
  ⟨fun _ => .error .notConfigured, fun _ _ => .error .notConfigured⟩

theorem generate_memo_numbered :
    0 < numberedService.ttl ∧ (Function.Injective fun n => (numberedService.stamp n).widgetId)
      ∧ isLasting (overloadedModel.generate " quiz") = false
      ∧ isLasting (absentModel.generate "quiz") = true
      ∧ numberedService.IsMemo 0 0 [.generate overloadedModel " quiz", .generate absentModel "quiz",
        .edit overloadedModel "widget_0" "bigger" fallbackWidget,
        .generate overloadedModel "quiz\n"] :=
  ⟨by decide, fun _ _ => suffixed_injective "widget", by decide, by decide,
    generate_memo (by decide) 0 0 _⟩

end Widgetry.Service
