import Widgetry.Proofs.Cache.Table
import Widgetry.Proofs.Service.Run

/-!
Coherent responses. What a service hands out fits together, whether it was rendered just now or
found in the cache: the ids of the elements differ, the code is the component of the very
description that comes with it, and the snippet is the one of this description, the response's id
and the service's address. Which of the two it is, the look-up decides: a response that the cache
finds is handed out as it is held, and where it finds none the description that the step starts from
is rendered afresh (`coherent_run`).

The invariant of a run is that the cache holds coherent responses only. Rendering makes a coherent
response of any description (`coherent_rendered`), and a cache that gives back what was stored in it
adds no others.

The events before a step do not matter to what it hands out, but the state does: the statement is
made for every state that a run can reach, and says of the step from there which response it is,
what the look-up found, and which calls were made. So a service that rendered something else, or
rendered afresh what it holds, would not satisfy it.
-/

namespace Widgetry.Service

variable (s : Service)

/-- A response whose parts belong together. -/
structure Coherent (r : Response) : Prop where
  ids : r.widget.ids.Nodup
  react : ∃ source, Component.emit r.widget = .ok source ∧ r.reactCode = source.code
  embed : r.embedCode = (Component.Embed.of r.widget.title r.widgetId s.cdn).code

/-- Any description is rendered to a coherent response. -/
theorem coherent_rendered (d : Description) (widgetId timestamp : String) :
    s.Coherent (s.rendered d widgetId timestamp) where
  ids := d.nodup_ids_repaired
  react := ⟨_, Component.emit_repaired d, rfl⟩
  embed := rfl

/-- The description that generating starts from: the model's, or the fallback widget. -/
def generated (model : Model) (prompt : String) : Description :=
  match model.generate prompt with
  | .ok d => d
  | .error _ => fallbackWidget

/-- The description that an edit starts from: the model's, or the current one. -/
def edited (model : Model) (instruction : String) (current : Description) : Description :=
  match model.edit current instruction with
  | .ok d => d
  | .error _ => current

theorem outcome_fst (model : Model) (prompt : String) :
    (outcome (model.generate prompt)).1 = generated model prompt := by
  unfold generated
  cases model.generate prompt <;> rfl

/-- An edit renders the description that it starts from, under the id it is given. -/
theorem edit_eq {σ : Type} (model : Model) (widgetId instruction : String) (current : Description)
    (st : ServiceState σ) :
    s.edit model widgetId instruction current st
      = (⟨.ok (s.rendered (edited model instruction current) widgetId (s.editTime st.edits)),
          [.edit instruction current.title]⟩, { st with edits := st.edits + 1 }) := by
  rw [edit, edited]
  cases model.edit current instruction <;> simp only [render_eq_ok]

variable {σ : Type} (cache : Cache σ) (held : σ → Response → Prop)

/-- What a step hands out in a state fits together. A response that the cache finds is one that it
holds, and no model is called. Where it finds none, and for every edit, the model is called once and
the response is a fresh one: it has the description that the step starts from, with its ids
repaired. An edit keeps the id it was given. -/
inductive CoherentReply (st : ServiceState σ) : Step → Reply → Prop
  | found {model : Model} {prompt : String} {r : Response}
      (hit : (cache.get (cacheKey prompt) st.cache).1 = .ok (some r)) (kept : held st.cache r)
      (coherent : s.Coherent r) :
      CoherentReply st (.generate model prompt) (.answer ⟨.ok r, []⟩)
  | fresh {model : Model} {prompt : String} {r : Response}
      (miss : ∀ r', (cache.get (cacheKey prompt) st.cache).1 ≠ .ok (some r'))
      (coherent : s.Coherent r) (widget : r.widget = (generated model prompt).repaired) :
      CoherentReply st (.generate model prompt) (.answer ⟨.ok r, [.generate prompt]⟩)
  | edit {model : Model} {widgetId instruction : String} {current : Description} {r : Response}
      (coherent : s.Coherent r) (id : r.widgetId = widgetId)
      (widget : r.widget = (edited model instruction current).repaired) :
      CoherentReply st (.edit model widgetId instruction current)
        (.answer ⟨.ok r, [.edit instruction current.title]⟩)
  | bundle {r : Response} : CoherentReply st (.bundle r) (.bundle (toExport r))

variable {cache held}

/-! ## 1. One step -/

/-- Where the cache holds coherent responses only, every step hands out what fits together. -/
theorem coherentReply_act (hcache : cache.GivesBack held) {st : ServiceState σ}
    (h : ∀ r, held st.cache r → s.Coherent r) (a : Step) :
    s.CoherentReply cache held st a (s.act cache a st).1 := by
  cases a with
  | generate model prompt =>
    rw [act]
    -- the look-up decides whether the reply is an old response or a fresh one
    by_cases hfound : ∃ r, (cache.get (cacheKey prompt) st.cache).1 = .ok (some r)
    · obtain ⟨r, hr⟩ := hfound
      rw [generate_of_found s cache hr]
      exact .found hr (hcache.found hr) (h r (hcache.found hr))
    · have hmiss := not_exists.1 hfound
      rw [generate_of_not_found s cache hmiss, freshResponse, outcome_fst]
      exact .fresh hmiss (s.coherent_rendered _ _ _) rfl
  | edit model widgetId instruction current =>
    rw [act, edit_eq]
    exact .edit (s.coherent_rendered _ _ _) rfl rfl
  | bundle r => exact .bundle

/-- After a step the cache holds coherent responses only, if it did before. -/
theorem coherent_of_held_act (hcache : cache.GivesBack held) {st : ServiceState σ}
    (h : ∀ r, held st.cache r → s.Coherent r) (a : Step) {r : Response}
    (hr : held (s.act cache a st).2.cache r) : s.Coherent r := by
  cases a with
  | generate model prompt =>
    rw [act] at hr
    by_cases hfound : ∃ r, (cache.get (cacheKey prompt) st.cache).1 = .ok (some r)
    · obtain ⟨r', hr'⟩ := hfound
      rw [generate_of_found s cache hr'] at hr
      exact h r (hcache.get hr)
    · rw [generate_of_not_found s cache (not_exists.1 hfound)] at hr
      dsimp only at hr
      split at hr
      · rcases hcache.put hr with rfl | hr
        · exact s.coherent_rendered _ _ _
        · exact h r (hcache.get hr)
      · exact h r (hcache.get hr)
  | edit => exact h r hr
  | bundle => exact h r hr

/-! ## 2. Runs -/

/-- **Everything that a service hands out or keeps is coherent**, in every state that some run
reaches from an empty cache, over any cache that gives back only what was stored in it. -/
theorem coherent_run (hcache : cache.GivesBack held) {start : σ} (hempty : ∀ r, ¬ held start r)
    (first edits : Nat) (steps : List Step) :
    let st := s.after cache steps ⟨start, first, edits⟩
    (∀ r, held st.cache r → s.Coherent r)
      ∧ ∀ a, s.CoherentReply cache held st a (s.act cache a st).1 := by
  have hheld : ∀ r, held (s.after cache steps ⟨start, first, edits⟩).cache r → s.Coherent r :=
    s.events_induction cache (P := fun _ st => ∀ r, held st.cache r → s.Coherent r)
      (fun _ _ a h _ hr => s.coherent_of_held_act hcache h a hr) (fun r hr => absurd hr (hempty r))
      steps
  exact ⟨hheld, s.coherentReply_act hcache hheld⟩

/-- A widget that uses one id twice, and the id that repair would try first. -/
def twinsWidget : Description :=
  { Description.blank .quiz "Twins" with
    elements :=
      [.plain .input "q" "First", .plain .input "q" "Second", .plain .text "q_2" "Third"] }

/-- A model that knows one widget and cannot edit. -/
def twinsModel : Model :=
  ⟨fun _ => .ok twinsWidget, fun _ _ => .error .emptyResponse⟩

/-- A service at an address with a slash at its end. -/
def twinsService : Service where
  cdn := "https://cdn.example/"
  ttl := 1000
  stamp n := ⟨suffixed "widget" n, "2024-01-01T00:00:00Z"⟩
  editTime _ := "2024-01-02T00:00:00Z"

/-- A widget, an edit of it, and the same prompt again. -/
theorem coherent_run_twins :
    let steps : List Step :=
      [.generate twinsModel "twins", .edit twinsModel "mine" "apart" twinsWidget]
    let st := twinsService.after Cache.inProcess steps ⟨[], 0, 0⟩
    Cache.inProcess.GivesBack Cache.Table.Holds ∧ (∀ r, ¬ Cache.Table.Holds [] r)
      ∧ (∀ r, Cache.Table.Holds st.cache r → twinsService.Coherent r)
      ∧ ∀ a, twinsService.CoherentReply .inProcess Cache.Table.Holds st a
        (twinsService.act .inProcess a st).1 :=
  ⟨Cache.givesBack_inProcess, Cache.Table.not_holds_nil,
    twinsService.coherent_run Cache.givesBack_inProcess Cache.Table.not_holds_nil 0 0 _⟩

end Widgetry.Service
