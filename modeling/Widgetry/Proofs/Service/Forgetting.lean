import Mathlib.Data.List.Forall2
import Widgetry.Proofs.Cache.Table
import Widgetry.Proofs.Service.Memo

/-!
Caches that find nothing. A service must not depend on its cache. Main statement: whether every
look-up fails, nothing can be stored, or whatever is stored expires at once, a service hands out
what it would hand out without a cache, and makes the same calls to its model
(`failing_cache_invisible`).

All three are caches of one sort: there are states in which nothing is found, and neither looking up
nor storing leads out of them (`Cache.Forgets`). From such a state on a run has, event by event, the
events of a run without a cache (`events_of_forgets`). With other stamps the responses bear other
ids and times, and nothing else changes (`events_disabled_sameEvent`).
-/

namespace Widgetry

/-! ## 1. Caches in which nothing is found -/

namespace Cache

variable {σ : Type} {cache : Cache σ} {held : σ → Response → Prop}

/-- States of a cache in which nothing is found, and which are kept by looking up and by storing for
a time. -/
structure Forgets (cache : Cache σ) (ttl : Nat) (blank : σ → Prop) : Prop where
  misses : ∀ {key st r}, blank st → (cache.get key st).1 ≠ .ok (some r)
  get : ∀ {key st}, blank st → blank (cache.get key st).2
  put : ∀ {key st r}, blank st → blank (cache.put key r ttl st).2

/-- A cache in which every look-up fails. -/
def FailsGets (cache : Cache σ) : Prop :=
  ∀ key st, ∃ e, (cache.get key st).1 = .error e

/-- A cache in which storing fails every time and adds nothing to what is held. -/
structure FailsPuts (cache : Cache σ) (held : σ → Response → Prop) : Prop where
  error : ∀ key stored ttl st, ∃ e, (cache.put key stored ttl st).1 = .error e
  adds_nothing : ∀ {key stored ttl st r}, held (cache.put key stored ttl st).2 r → held st r

theorem failsGets_failingGet : failingGet.FailsGets := fun _ _ => ⟨_, rfl⟩

theorem failsPuts_failingPut : failingPut.FailsPuts Table.Holds where
  error _ _ _ _ := ⟨_, rfl⟩
  adds_nothing h := h

theorem FailsGets.forgets (h : cache.FailsGets) (ttl : Nat) : cache.Forgets ttl fun _ => True where
  misses {key st r} _ hfound := by
    obtain ⟨e, he⟩ := h key st
    rw [he] at hfound
    cases hfound
  get _ := trivial
  put _ := trivial

theorem FailsPuts.forgets (h : cache.FailsPuts held) (hback : cache.GivesBack held) (ttl : Nat) :
    cache.Forgets ttl fun st => ∀ r, ¬held st r where
  misses hblank hfound := hblank _ (hback.found hfound)
  get hblank r hr := hblank r (hback.get hr)
  put hblank r hr := hblank r (h.adds_nothing hr)

namespace Table

/-- Whether nothing that is stored can be found. -/
def Expired (t : Table) : Prop :=
  ∀ e ∈ t, e.2.live = false

theorem response?_of_expired {t : Table} (h : t.Expired) (key : String) :
    t.response? key = none := by
  cases hfind : t.find? key with
  | none => rw [response?, hfind, Option.bind_none]
  | some entry =>
    obtain ⟨e, he, rfl⟩ := Option.map_eq_some_iff.1 hfind
    have hlive := h e (List.mem_of_find?_eq_some he)
    rw [response?, hfind, Option.bind_some, if_neg (by simp [hlive])]

theorem expired_set {t : Table} {entry : Entry} (h : t.Expired) (hlive : entry.live = false)
    (key : String) : (t.set key entry).Expired := by
  induction t with
  | nil => exact List.forall_mem_singleton.2 hlive
  | cons head rest ih =>
    obtain ⟨k, e⟩ := head
    obtain ⟨hhead, hrest⟩ := List.forall_mem_cons.1 h
    rw [set]
    split
    · exact List.forall_mem_cons.2 ⟨hlive, hrest⟩
    · exact List.forall_mem_cons.2 ⟨hhead, ih hrest⟩

/-- What is stored for no time among what has expired has expired as well. -/
theorem expired_put {t : Table} (h : t.Expired) (key : String) (r : Response) :
    (t.put key r 0).Expired := by
  rw [put]
  split
  · rename_i response hfind
    obtain ⟨e, he, heq⟩ := Option.map_eq_some_iff.1 hfind
    have hlive := h e (List.mem_of_find?_eq_some he)
    rw [heq] at hlive
    cases hlive
  · exact expired_set h rfl key

end Table

theorem forgets_inProcess : inProcess.Forgets 0 Table.Expired where
  misses {key t r} hexpired hfound := by
    have hnone : t.response? key = none := Table.response?_of_expired hexpired key
    have hsome : t.response? key = some r := Except.ok.inj hfound
    rw [hnone] at hsome
    cases hsome
  get hexpired := hexpired
  put hexpired := Table.expired_put hexpired _ _

end Cache

/-! ## 2. Runs without a cache -/

namespace Service

variable {σ : Type} (s : Service)

/-- Two replies to one step that differ only in what is made anew for each: generated responses show
the same description under ids and times of their own, edited ones under the given id and times of
their own. -/
inductive SameReply : Step → Reply → Reply → Prop
  | generate (model : Model) (prompt : String) (d : Description) (calls : List ModelCall)
    (stamp stamp' : Stamp) :
    SameReply (.generate model prompt)
      (.answer ⟨.ok (s.rendered d stamp.widgetId stamp.timestamp), calls⟩)
      (.answer ⟨.ok (s.rendered d stamp'.widgetId stamp'.timestamp), calls⟩)
  | edit (model : Model) (widgetId instruction : String) (current d : Description)
    (calls : List ModelCall) (timestamp timestamp' : String) :
    SameReply (.edit model widgetId instruction current)
      (.answer ⟨.ok (s.rendered d widgetId timestamp), calls⟩)
      (.answer ⟨.ok (s.rendered d widgetId timestamp'), calls⟩)
  | bundle (response : Response) (e : Export) :
    SameReply (.bundle response) (.bundle e) (.bundle e)

/-- Two events of one step with replies that differ only in what is made anew. -/
def SameEvent (e e' : Event) : Prop :=
  e.step = e'.step ∧ s.SameReply e.step e.reply e'.reply

/-- From a state of its cache on a service hands out what it hands out without a cache: the very
same with the same stamps, and the same up to ids and times with any others. -/
def AsUncached (cache : Cache σ) (start : σ) : Prop :=
  ∀ steps n k, s.events cache steps ⟨start, n, k⟩ = s.events .disabled steps ⟨(), n, k⟩
    ∧ ∀ (s' : Service) (n' k' : Nat), s'.cdn = s.cdn →
      List.Forall₂ s.SameEvent (s.events cache steps ⟨start, n, k⟩)
        (s'.events .disabled steps ⟨(), n', k'⟩)

variable {s} {cache : Cache σ} {blank : σ → Prop}

/-- Without a cache the model is called for every prompt, and its reply is rendered afresh. -/
theorem generate_disabled (model : Model) (prompt : String) (st : ServiceState Unit) :
    s.generate .disabled model prompt st
      = (⟨.ok (s.freshResponse (model.generate prompt) (s.stamp st.issued)), [.generate prompt]⟩,
        ⟨(), st.issued + 1, st.edits⟩) :=
  s.generate_of_not_found .disabled fun _ h => by simp [Cache.disabled] at h

/-- A step where nothing is found hands out what it hands out without a cache, and nothing is found
after it. -/
theorem act_of_forgets (h : cache.Forgets s.ttl blank) (a : Step) {st : ServiceState σ}
    (hblank : blank st.cache) :
    (s.act cache a st).1 = (s.act .disabled a ⟨(), st.issued, st.edits⟩).1
      ∧ (s.act .disabled a ⟨(), st.issued, st.edits⟩).2
        = ⟨(), (s.act cache a st).2.issued, (s.act cache a st).2.edits⟩
      ∧ blank (s.act cache a st).2.cache := by
  cases a with
  | generate model prompt =>
    have hmiss (r : Response) : (cache.get (cacheKey prompt) st.cache).1 ≠ .ok (some r) :=
      h.misses hblank
    have hget : blank (cache.get (cacheKey prompt) st.cache).2 := h.get hblank
    -- whether or not the response is stored, the state stays one in which nothing is found
    rw [act, act, s.generate_of_not_found cache hmiss, generate_disabled]
    refine ⟨rfl, rfl, ?_⟩
    dsimp only
    split
    · exact h.put hget
    · exact hget
  | edit model widgetId instruction current => exact ⟨rfl, rfl, hblank⟩
  | bundle response => exact ⟨rfl, rfl, hblank⟩

/-- A run in which nothing is ever found has the events of a run without a cache. -/
theorem events_of_forgets (h : cache.Forgets s.ttl blank) (steps : List Step) {st : ServiceState σ}
    (hblank : blank st.cache) :
    s.events cache steps st = s.events .disabled steps ⟨(), st.issued, st.edits⟩ := by
  induction steps generalizing st with
  | nil => rfl
  | cons a steps ih =>
    obtain ⟨hreply, hstate, hnext⟩ := act_of_forgets h a hblank
    rw [events, events, event, event, hreply, hstate, ih hnext]

/-! ## 3. Stamps of another service -/

/-- One step without a cache, whatever was given out before. -/
theorem act_disabled_sameReply {s' : Service} (h : s'.cdn = s.cdn) (a : Step)
    (st st' : ServiceState Unit) :
    s.SameReply a (s.act .disabled a st).1 (s'.act .disabled a st').1 := by
  cases a with
  | generate model prompt =>
    rw [act, act, generate_disabled, generate_disabled, freshResponse, freshResponse,
      rendered_congr h]
    exact .generate model prompt _ _ _ _
  | edit model widgetId instruction current =>
    rw [act, act, edit, edit, render_eq_ok, render_eq_ok, rendered_congr h]
    exact .edit model widgetId instruction current _ _ _ _
  | bundle response => exact .bundle response _

/-- Without a cache only ids and times tell the runs of two services apart. -/
theorem events_disabled_sameEvent {s' : Service} (h : s'.cdn = s.cdn) (steps : List Step)
    (st st' : ServiceState Unit) :
    List.Forall₂ s.SameEvent (s.events .disabled steps st) (s'.events .disabled steps st') := by
  induction steps generalizing st st' with
  | nil => exact .nil
  | cons a steps ih => exact .cons ⟨rfl, act_disabled_sameReply h a st st'⟩ (ih _ _)

/-- A service whose cache finds nothing works as without a cache. -/
theorem asUncached_of_forgets (h : cache.Forgets s.ttl blank) {start : σ} (hblank : blank start) :
    s.AsUncached cache start := by
  intro steps n k
  have hevents : s.events cache steps ⟨start, n, k⟩ = s.events .disabled steps ⟨(), n, k⟩ :=
    events_of_forgets h steps hblank
  refine ⟨hevents, fun s' n' k' hcdn => ?_⟩
  rw [hevents]
  exact events_disabled_sameEvent hcdn steps _ _

variable (s)

/-- A failing cache cannot be told from none: not if every look-up fails, not if storing fails every
time and nothing is held from the start, and not if the cache in the process keeps what is stored
for no time. Every run hands out the same replies and calls the model for the same, up to the ids of
generated widgets and the times, and no reply is an error. -/
theorem failing_cache_invisible :
    (∀ (σ : Type) (cache : Cache σ) (start : σ), cache.FailsGets → s.AsUncached cache start)
      ∧ (∀ (σ : Type) (cache : Cache σ) (held : σ → Response → Prop) (start : σ),
        cache.GivesBack held → cache.FailsPuts held → (∀ r, ¬held start r) →
          s.AsUncached cache start)
      ∧ ∀ start : Cache.Table, s.ttl = 0 → start.Expired → s.AsUncached .inProcess start := by
  refine ⟨?_, ?_, ?_⟩
  · intro σ cache start hgets
    exact asUncached_of_forgets (hgets.forgets s.ttl) trivial
  · intro σ cache held start hback hputs hblank
    exact asUncached_of_forgets (hputs.forgets hback s.ttl) hblank
  · intro start httl hexpired
    have hforgets : Cache.inProcess.Forgets s.ttl Cache.Table.Expired := by
      rw [httl]
      exact Cache.forgets_inProcess
    exact asUncached_of_forgets hforgets hexpired

/-- A service that keeps responses for no time. -/
def forgetfulService : Service := { numberedService with ttl := 0 }

theorem failing_cache_invisible_forgetful :
    Cache.failingGet.FailsGets ∧ Cache.failingPut.GivesBack Cache.Table.Holds
      ∧ Cache.failingPut.FailsPuts Cache.Table.Holds
      ∧ (∀ r, ¬Cache.Table.Holds [] r) ∧ forgetfulService.ttl = 0 ∧ Cache.Table.Expired []
      ∧ forgetfulService.AsUncached .failingGet [] ∧ forgetfulService.AsUncached .failingPut []
      ∧ forgetfulService.AsUncached .inProcess [] := by
  have hexpired : Cache.Table.Expired [] := List.forall_mem_nil _
  obtain ⟨hgets, hputs, htimes⟩ := failing_cache_invisible forgetfulService
  refine ⟨Cache.failsGets_failingGet, Cache.givesBack_failingPut, Cache.failsPuts_failingPut,
    Cache.Table.not_holds_nil, rfl, hexpired, ?_, ?_, ?_⟩
  · exact hgets _ .failingGet [] Cache.failsGets_failingGet
  · exact hputs _ .failingPut _ [] Cache.givesBack_failingPut Cache.failsPuts_failingPut
      Cache.Table.not_holds_nil
  · exact htimes [] rfl hexpired

end Service

end Widgetry
