import Widgetry.Proofs.Http.Export
import Widgetry.Proofs.Service.Coherence

/-!
Requests that take too long. The limit on requests gives up their work wherever it waits. What this
leaves behind is nothing new: the calls are those of the finished work or none, and the cache is as
it was, as it is after a look-up, or as finished work leaves it (`leftBehind_workUntil`). So the
requests of a sequence may be slow wherever they like: each is answered with success, refused, or
given up, never answered with a failure of the server, and the cache holds coherent responses only
(`answers_settled`).

Where work is given up is a place in it (`Wait`): before the body is there, in a look-up, in a call
to the model, in a store. A step lemma says for each place what can be left behind, and the run goes
from request to request. There is no place at which half of a response is stored, and none at which
the model was called twice.
-/

namespace Widgetry

variable {σ : Type}

/-! ## 1. Work on the service -/

/-- What was done by work that was given up in a state: a part of what finished work does, given by
its calls and the state it ends in. -/
structure LeftBehind (cache : Cache σ) (st : ServiceState σ) (calls : List ModelCall)
    (final : ServiceState σ) (done : List ModelCall × ServiceState σ) : Prop where
  calls : done.1 = [] ∨ done.1 = calls
  cache : done.2.cache = st.cache ∨ (∃ key, done.2.cache = (cache.get key st.cache).2)
    ∨ done.2.cache = final.cache

theorem leftBehind_nothing {cache : Cache σ} {st final : ServiceState σ} {calls : List ModelCall} :
    LeftBehind cache st calls final ([], st) :=
  ⟨.inl rfl, .inl rfl⟩

namespace Service

variable (s : Service) (cache : Cache σ) (model : Model)

theorem leftBehind_generateUntil (w : Wait) (prompt : String) (st : ServiceState σ) :
    LeftBehind cache st (s.generate cache model prompt st).1.calls
      (s.generate cache model prompt st).2 (s.generateUntil w cache model prompt st) := by
  rw [generateUntil]
  cases w with
  | body => exact leftBehind_nothing
  | lookup done =>
    cases done with
    | false => exact leftBehind_nothing
    | true => exact ⟨.inl rfl, .inr (.inl ⟨cacheKey prompt, rfl⟩)⟩
  | model => exact ⟨.inr rfl, .inr (.inl ⟨cacheKey prompt, rfl⟩)⟩
  | store done =>
    cases done with
    | false => exact ⟨.inr rfl, .inr (.inl ⟨cacheKey prompt, rfl⟩)⟩
    | true => exact ⟨.inr rfl, .inr (.inr rfl)⟩

theorem leftBehind_editUntil (w : Wait) (widgetId instruction : String) (current : Description)
    (st : ServiceState σ) :
    LeftBehind cache st (s.edit model widgetId instruction current st).1.calls
      (s.edit model widgetId instruction current st).2
      (s.editUntil w model widgetId instruction current st) := by
  cases w with
  | model => exact ⟨.inr rfl, .inl rfl⟩
  | body => exact leftBehind_nothing
  | lookup done => exact leftBehind_nothing
  | store done => exact leftBehind_nothing

end Service

namespace Http

variable {service : Service} {cache : Cache σ} {model : Model} {request : Request}
  {st : ServiceState σ} {held : σ → Response → Prop}

/-! ## 2. One request -/

/-- What a generating request does once its body is read: nothing, if the body has problems. -/
theorem post_generate_of_read {r : GenerateRequest}
    (hread : readBody GenerateRequest.record.decoder request = .ok r) :
    ((post service cache model .generate request st).1.calls,
        (post service cache model .generate request st).2)
      = if r.problems.isEmpty then
          ((service.generate cache model r.prompt st).1.calls,
            (service.generate cache model r.prompt st).2)
        else ([], st) := by
  obtain ⟨response, hresponse⟩ := service.exists_generate_result cache model r.prompt st
  rw [post, hread]
  dsimp only
  rw [hresponse]
  split <;> rfl

/-- An editing request does the like. -/
theorem post_edit_of_read {r : EditRequest}
    (hread : readBody EditRequest.record.decoder request = .ok r) :
    ((post service cache model .edit request st).1.calls,
        (post service cache model .edit request st).2)
      = if r.problems.isEmpty then
          ((service.edit model r.widgetId r.instruction r.current st).1.calls,
            (service.edit model r.widgetId r.instruction r.current st).2)
        else ([], st) := by
  obtain ⟨response, hresponse⟩ :=
    service.exists_edit_result model r.widgetId r.instruction r.current st
  rw [post, hread]
  dsimp only
  rw [hresponse]
  split <;> rfl

/-- Work that begins only on a body without problems leaves a part of what is done then. -/
theorem leftBehind_ite {clean : Prop} [Decidable clean] {calls : List ModelCall}
    {final : ServiceState σ} {full done : List ModelCall × ServiceState σ}
    (hfull : (calls, final) = if clean then full else ([], st))
    (hdone : LeftBehind cache st full.1 full.2 done) :
    LeftBehind cache st calls final (if clean then done else ([], st)) := by
  split
  · rename_i hclean
    rw [if_pos hclean] at hfull
    subst hfull
    exact hdone
  · exact leftBehind_nothing

/-- Work on a request that was given up has done a part of what answers the request otherwise. -/
theorem leftBehind_workUntil (cors : Cors) (w : Wait) :
    LeftBehind cache st (handle service cache model cors request st).1.calls
      (handle service cache model cors request st).2
      (workUntil service cache model w request st) := by
  have posted {route : Route} (hmethod : (request.method == "POST") = true)
      (hroute : Route.ofTarget request.target = some route) (hbody : route.takesBody = true) :
      ∃ headers, handle service cache model cors request st
        = ({ (post service cache model route request st).1 with headers := headers },
          (post service cache model route request st).2) :=
    exists_handle_of_route (by simpa using hmethod) hroute hbody
  -- the cases are the routes: only a body that is read and passes its checks starts any work
  unfold workUntil
  dsimp only
  split
  · rename_i hmethod
    split
    · rename_i hroute
      obtain ⟨headers, hhandle⟩ := posted hmethod hroute rfl
      rw [hhandle]
      split
      · exact leftBehind_nothing
      · rename_i r hread
        exact leftBehind_ite (post_generate_of_read hread)
          (service.leftBehind_generateUntil cache model w r.prompt st)
    · rename_i hroute
      obtain ⟨headers, hhandle⟩ := posted hmethod hroute rfl
      rw [hhandle]
      split
      · exact leftBehind_nothing
      · rename_i r hread
        exact leftBehind_ite (post_edit_of_read hread)
          (service.leftBehind_editUntil cache model w r.widgetId r.instruction r.current st)
    · exact leftBehind_nothing
  · exact leftBehind_nothing

/-- A request is answered in time or given up. -/
theorem answer_cases (service : Service) (cache : Cache σ) (model : Model) (server : ServerSettings)
    (pace : Pace) (request : Request) (st : ServiceState σ) :
    answer service cache model server pace request st
        = handle service cache model (Cors.ofOrigins server.corsOrigins) request st
      ∨ answer service cache model server pace request st
        = (givenUp (workUntil service cache model pace.wait request st).1,
          (workUntil service cache model pace.wait request st).2) := by
  unfold answer
  split
  · exact .inl rfl
  · exact .inr rfl

variable {cors : Cors} {server : ServerSettings} {pace : Pace}

/-- The cache after a request that was answered holds coherent responses only, if it did before. -/
theorem coherent_of_held_handle (hcache : cache.GivesBack held)
    (h : ∀ r, held st.cache r → service.Coherent r) {r : Response}
    (hr : held (handle service cache model cors request st).2.cache r) : service.Coherent r := by
  have hstate : (handle service cache model cors request st).2.cache = st.cache
      ∨ (handle service cache model cors request st).2.cache
        = (post service cache model .generate request st).2.cache := cache_handle
  rcases hstate with hkept | hmade
  · rw [hkept] at hr
    exact h r hr
  · rw [hmade] at hr
    cases hread : readBody GenerateRequest.record.decoder request with
    | error o =>
      rw [post, hread] at hr
      exact h r hr
    | ok body =>
      rw [congrArg Prod.snd (post_generate_of_read hread)] at hr
      split at hr
      · exact service.coherent_of_held_act hcache h (.generate model body.prompt) hr
      · exact h r hr

/-- The same is true of a request that may have been given up. -/
theorem coherent_of_held_answer (hcache : cache.GivesBack held)
    (h : ∀ r, held st.cache r → service.Coherent r) {r : Response}
    (hr : held (answer service cache model server pace request st).2.cache r) :
    service.Coherent r := by
  rcases answer_cases service cache model server pace request st with htime | hlate
  · rw [htime] at hr
    exact coherent_of_held_handle hcache h hr
  · rw [hlate] at hr
    have hleft : LeftBehind cache st _ _ (workUntil service cache model pace.wait request st) :=
      leftBehind_workUntil .any pace.wait
    rcases hleft.cache with hkept | ⟨key, hlooked⟩ | hfinal
    · exact h r (hkept ▸ hr)
    · exact h r (hcache.get (hlooked ▸ hr))
    · exact coherent_of_held_handle hcache h (hfinal ▸ hr)

/-! ## 3. Sequences of requests -/

/-- A request with its model, and how the work on it goes. -/
structure Attempt extends Exchange where
  pace : Pace

/-- The answers to requests one after another, and the state after them. -/
def answers (service : Service) (cache : Cache σ) (server : ServerSettings) :
    List Attempt → ServiceState σ → List Outcome × ServiceState σ
  | [], st => ([], st)
  | x :: xs, st =>
    let (o, st) := answer service cache x.model server x.pace x.request st
    let (os, st) := answers service cache server xs st
    (o :: os, st)

theorem status_answer :
    (answer service cache model server pace request st).1.status
      ∈ 200 :: 408 :: refusalStatuses := by
  rcases answer_cases service cache model server pace request st with htime | hlate
  · rw [htime]
    rcases settled_handle.status with hstatus | hstatus
    · exact List.mem_cons.2 (.inl hstatus)
    · exact List.mem_cons_of_mem _ (List.mem_cons_of_mem _ hstatus)
  · rw [hlate]
    exact List.mem_cons_of_mem _ List.mem_cons_self

/-- **Slow requests do no harm.** Whatever the requests of a sequence wait for and for how long,
every one of them is answered with success, refused or given up, and afterwards the cache holds
coherent responses only, if it did before. -/
theorem answers_settled (hcache : cache.GivesBack held) (xs : List Attempt)
    (h : ∀ r, held st.cache r → service.Coherent r) :
    (∀ o ∈ (answers service cache server xs st).1, o.status ∈ 200 :: 408 :: refusalStatuses)
      ∧ ∀ r, held (answers service cache server xs st).2.cache r → service.Coherent r := by
  induction xs generalizing st with
  | nil => exact ⟨nofun, h⟩
  | cons x xs ih =>
    have hnext : ∀ r, held (answer service cache x.model server x.pace x.request st).2.cache r →
        service.Coherent r :=
      fun _ => coherent_of_held_answer hcache h
    obtain ⟨hrest, hheld⟩ := ih hnext
    exact ⟨List.forall_mem_cons.2 ⟨status_answer, hrest⟩, hheld⟩

end Http

end Widgetry
