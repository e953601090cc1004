import Widgetry.Proofs.Component.Emission
import Widgetry.Service.Basic

/-!
Runs of a service: steps of any sort one after another, each with a model of its own, and the events
that they leave. What holds of the events of a run is shown from its start on, step by step
(`events_induction`). Rendering never fails (`render_eq_ok`), so a step that generates either finds
a response in the cache or answers with a fresh one.

A run may call on any model at every step, so that what is said of all runs holds of models that
change their minds, fail now and then, or reply with anything at all. Invariants are shown in two
forms: of the state after a step, and of the event that the step leaves, which may depend on all the
events before (`events_induction`).
-/

namespace Widgetry.Service

/-! ## 1. Steps and events -/

/-- A step of a service. The model may answer differently in every step. -/
inductive Step where
  | generate (model : Model) (prompt : String)
  | edit (model : Model) (widgetId instruction : String) (current : Description)
  | bundle (response : Response)

/-- Whether a step generates. -/
def Step.isGenerate : Step → Bool
  | .generate .. => true
  | _ => false

/-- What a step hands out. -/
inductive Reply where
  | answer (a : Answer)
  | bundle (e : Export)

/-- A step that was made, and what it handed out. -/
structure Event where
  step : Step
  reply : Reply

variable {σ : Type} (s : Service) (cache : Cache σ)

/-- One step of a service. -/
def act : Step → ServiceState σ → Reply × ServiceState σ
  | .generate model prompt, st =>
    (.answer (s.generate cache model prompt st).1, (s.generate cache model prompt st).2)
  | .edit model widgetId instruction current, st =>
    (.answer (s.edit model widgetId instruction current st).1,
      (s.edit model widgetId instruction current st).2)
  | .bundle response, st => (.bundle (toExport response), st)

/-- The event of a step. -/
def event (a : Step) (st : ServiceState σ) : Event :=
  ⟨a, (s.act cache a st).1⟩

/-- The events of a run. -/
def events : List Step → ServiceState σ → List Event
  | [], _ => []
  | a :: as, st => s.event cache a st :: events as (s.act cache a st).2

/-- The state at the end of a run. -/
def after : List Step → ServiceState σ → ServiceState σ
  | [], st => st
  | a :: as, st => after as (s.act cache a st).2

/-- A step of a run is made in the state in which the steps before it ended. -/
theorem exists_of_events_eq {steps : List Step} {st : ServiceState σ} {earlier later : List Event}
    {a : Step} {reply : Reply}
    (h : s.events cache steps st = earlier ++ ⟨a, reply⟩ :: later) :
    ∃ as, earlier = s.events cache as st ∧ reply = (s.act cache a (s.after cache as st)).1 := by
  induction earlier generalizing steps st with
  | nil =>
    cases steps with
    | nil => simp [events] at h
    | cons b bs =>
      obtain ⟨rfl, rfl⟩ : b = a ∧ (s.act cache b st).1 = reply :=
        Event.mk.inj (List.cons.inj h).1
      exact ⟨[], rfl, rfl⟩
  | cons d earlier ih =>
    cases steps with
    | nil => simp [events] at h
    | cons b bs =>
      obtain ⟨rfl, htail⟩ := List.cons.inj h
      obtain ⟨as, rfl, hreply⟩ := ih htail
      exact ⟨b :: as, rfl, hreply⟩

/-- What holds at the start and is kept by every step of a sort holds of all runs of such steps. -/
theorem events_induction_of_forall {P : List Event → ServiceState σ → Prop} {Q : Step → Prop}
    (keep : ∀ past st a, Q a → P past st →
      P (past ++ [s.event cache a st]) (s.act cache a st).2)
    {st : ServiceState σ} (start : P [] st) (steps : List Step) (hsteps : ∀ a ∈ steps, Q a) :
    P (s.events cache steps st) (s.after cache steps st) := by
  have from_past (past : List Event) (st : ServiceState σ) (h : P past st) :
      P (past ++ s.events cache steps st) (s.after cache steps st) := by
    induction steps generalizing past st with
    | nil => simpa [events, after] using h
    | cons a as ih =>
      obtain ⟨ha, has⟩ := List.forall_mem_cons.1 hsteps
      have hnext := ih has _ _ (keep past st a ha h)
      rwa [List.append_assoc, List.singleton_append] at hnext
  exact from_past [] st start

/-- What holds at the start and is kept by every step holds of all runs. -/
theorem events_induction {P : List Event → ServiceState σ → Prop}
    (keep : ∀ past st a, P past st → P (past ++ [s.event cache a st]) (s.act cache a st).2)
    {st : ServiceState σ} (start : P [] st) (steps : List Step) :
    P (s.events cache steps st) (s.after cache steps st) :=
  s.events_induction_of_forall cache (Q := fun _ => True) (fun past st a _ => keep past st a) start
    steps fun _ _ => trivial

/-- A state in which another number of edits was made. -/
def withEdits (st : ServiceState σ) (n : Nat) : ServiceState σ := { st with edits := n }

/-- Edits and bundles leave nothing behind but the number of edits. -/
theorem exists_act_eq_of_not_isGenerate {a : Step} (h : a.isGenerate = false)
    (st : ServiceState σ) : ∃ n, (s.act cache a st).2 = withEdits st n := by
  cases a with
  | generate => simp [Step.isGenerate] at h
  | edit => exact ⟨st.edits + 1, rfl⟩
  | bundle => exact ⟨st.edits, rfl⟩

/-- The number of edits does not matter to generating. -/
theorem generate_withEdits (model : Model) (prompt : String) (st : ServiceState σ) (n : Nat) :
    s.generate cache model prompt (withEdits st n)
      = ((s.generate cache model prompt st).1, withEdits (s.generate cache model prompt st).2 n) := by
  simp only [generate, withEdits]
  cases (cache.get (cacheKey prompt) st.cache).1 with
  | error e => cases s.render _ (s.stamp st.issued).widgetId (s.stamp st.issued).timestamp <;> rfl
  | ok found =>
    cases found with
    | none => cases s.render _ (s.stamp st.issued).widgetId (s.stamp st.issued).timestamp <;> rfl
    | some r => rfl

theorem act_withEdits {a : Step} (h : a.isGenerate = true) (st : ServiceState σ) (n : Nat) :
    s.act cache a (withEdits st n)
      = ((s.act cache a st).1, withEdits (s.act cache a st).2 n) := by
  cases a with
  | generate model prompt => rw [act, generate_withEdits, act]
  | edit => cases h
  | bundle => cases h

/-- Without its edits and bundles a run has the same events otherwise, however many edits were made
before. -/
theorem events_filter (steps : List Step) (st : ServiceState σ) (n : Nat) :
    s.events cache (steps.filter Step.isGenerate) (withEdits st n)
      = (s.events cache steps st).filter (·.step.isGenerate) := by
  induction steps generalizing st n with
  | nil => rfl
  | cons a as ih =>
    rw [events]
    cases ha : a.isGenerate with
    | true =>
      rw [List.filter_cons_of_pos ha, List.filter_cons_of_pos (by simpa [event] using ha), events,
        event, act_withEdits s cache ha, ih, event]
    | false =>
      obtain ⟨n', hn'⟩ := exists_act_eq_of_not_isGenerate s cache ha st
      have hstate : withEdits st n = withEdits (s.act cache a st).2 n := by
        rw [hn']
        rfl
      rw [List.filter_cons_of_neg (by simp [ha]), List.filter_cons_of_neg (by simp [event, ha]),
        hstate, ih]

/-! ## 2. Rendering and generating -/

/-- The response that a description is rendered to. -/
def rendered (d : Description) (widgetId timestamp : String) : Response where
  widgetId := widgetId
  widget := d.repaired
  reactCode := (Component.layout d.repaired).source.code
  embedCode := (Component.Embed.of d.repaired.title widgetId s.cdn).code
  timestamp := timestamp

/-- Of a service only its address matters to what it renders. -/
theorem rendered_congr {s s' : Service} (h : s'.cdn = s.cdn) : s'.rendered = s.rendered := by
  funext d widgetId timestamp
  rw [rendered, rendered, h]

/-- Rendering does not fail. -/
theorem render_eq_ok (d : Description) (widgetId timestamp : String) :
    s.render d widgetId timestamp = .ok (s.rendered d widgetId timestamp) := by
  rw [render, Component.emit_repaired]
  rfl

/-- The response that is rendered for a reply of the model under a stamp. -/
def freshResponse (reply : Except ModelError Description) (stamp : Stamp) : Response :=
  s.rendered (outcome reply).1 stamp.widgetId stamp.timestamp

/-- A response that is found is the answer, and nothing changes but what looking it up changes. -/
theorem generate_of_found {model : Model} {prompt : String} {st : ServiceState σ} {r : Response}
    (h : (cache.get (cacheKey prompt) st.cache).1 = .ok (some r)) :
    s.generate cache model prompt st
      = (⟨.ok r, []⟩, { st with cache := (cache.get (cacheKey prompt) st.cache).2 }) := by
  simp only [generate, h]

/-- Without a response in the cache the model is called once, and its reply is rendered afresh. The
response is stored unless the reply is a failure that may pass. -/
theorem generate_of_not_found {model : Model} {prompt : String} {st : ServiceState σ}
    (h : ∀ r, (cache.get (cacheKey prompt) st.cache).1 ≠ .ok (some r)) :
    s.generate cache model prompt st
      = (⟨.ok (s.freshResponse (model.generate prompt) (s.stamp st.issued)), [.generate prompt]⟩,
        ⟨if (outcome (model.generate prompt)).2 then
            (cache.put (cacheKey prompt)
              (s.freshResponse (model.generate prompt) (s.stamp st.issued)) s.ttl
              (cache.get (cacheKey prompt) st.cache).2).2
          else (cache.get (cacheKey prompt) st.cache).2,
          st.issued + 1, st.edits⟩) := by
  rcases hget : cache.get (cacheKey prompt) st.cache with ⟨_ | _ | r, c⟩
  · simp only [generate, hget, render_eq_ok]
    rfl
  · simp only [generate, hget, render_eq_ok]
    rfl
  · exact absurd (congrArg Prod.fst hget) (h r)

/-- Generating never fails: what is found was rendered before, and rendering does not fail. -/
theorem exists_generate_result (model : Model) (prompt : String) (st : ServiceState σ) :
    ∃ r, (s.generate cache model prompt st).1.result = .ok r := by
  by_cases hfound : ∃ r, (cache.get (cacheKey prompt) st.cache).1 = .ok (some r)
  · obtain ⟨r, hr⟩ := hfound
    rw [generate_of_found s cache hr]
    exact ⟨r, rfl⟩
  · rw [generate_of_not_found s cache fun r hr => hfound ⟨r, hr⟩]
    exact ⟨_, rfl⟩

/-- Editing never fails. -/
theorem exists_edit_result (model : Model) (widgetId instruction : String) (current : Description)
    (st : ServiceState σ) :
    ∃ r, (s.edit model widgetId instruction current st).1.result = .ok r := by
  rw [edit, render_eq_ok]
  exact ⟨_, rfl⟩

end Widgetry.Service
