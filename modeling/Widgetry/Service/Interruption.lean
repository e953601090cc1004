import Widgetry.Service.Basic

/-!
Work that is given up. Work for a request waits for its body, for the cache and for the model, and
at each of these points it may be given up. What was done by then stays done: a call to the model
was made even if nobody waits for its reply, and the cache may or may not have done what it was
asked for. Nothing is done after it.
-/

namespace Widgetry

/-- What work waits for when it is given up. -/
inductive Wait where
  | body
  | lookup (done : Bool)
  | model
  | store (done : Bool)
  deriving Repr, DecidableEq

namespace Service

variable {σ : Type} (s : Service)

/-- The calls that generating has made when it is given up, and the state that it leaves. -/
def generateUntil (w : Wait) (cache : Cache σ) (model : Model) (prompt : String)
    (st : ServiceState σ) : List ModelCall × ServiceState σ :=
  let looked := { st with cache := (cache.get (cacheKey prompt) st.cache).2 }
  let (answer, final) := s.generate cache model prompt st
  match w with
  | .body => ([], st)
  | .lookup done => ([], if done then looked else st)
  | .model => (answer.calls, looked)
  | .store done => (answer.calls, if done then final else { final with cache := looked.cache })

/-- The calls that an edit has made when it is given up, and the state that it leaves. An edit does
not wait for the cache, and once the model has replied it is there. -/
def editUntil (w : Wait) (model : Model) (widgetId instruction : String) (current : Description)
    (st : ServiceState σ) : List ModelCall × ServiceState σ :=
  match w with
  | .model => ((s.edit model widgetId instruction current st).1.calls, st)
  | _ => ([], st)

end Service

end Widgetry
