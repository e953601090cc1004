import Widgetry.Cache.Remote
import Widgetry.Proofs.Cache.Table

/-!
Caches that keep texts. A server stores the text of a response, and what is found later is read from
this text. So its cache gives back what was stored, or what the text of a stored response is read as
(`Cache.Returns`); the caches that keep responses themselves do so all the more.

No property of a response survives such a cache for free: what comes back has been written and read
once more. So what is to hold of all that is handed out has to hold of whatever its text is read as
too (`texts_get`).
-/

namespace Widgetry.Cache

variable {σ : Type} {cache : Cache σ} {held : σ → Response → Prop}

/-- A cache returns what was stored in it, as it is or as its text is read: what is found under a
key is held, looking a key up adds nothing, and storing a response adds it or what its text is read
as. It may forget. -/
structure Returns (cache : Cache σ) (held : σ → Response → Prop) : Prop where
  found : ∀ {key st r}, (cache.get key st).1 = .ok (some r) → held st r
  get : ∀ {key st r}, held (cache.get key st).2 r → held st r
  put : ∀ {key st stored ttl r}, held (cache.put key stored ttl st).2 r →
    r = stored ∨ Response.parse stored.text = .ok r ∨ held st r

theorem GivesBack.returns (h : cache.GivesBack held) : cache.Returns held where
  found := h.found
  get := h.get
  put hr := (h.put hr).imp_right .inr

/-- Nothing is found where nothing is held. -/
theorem Returns.get_ne (h : cache.Returns held) {st : σ} (hempty : ∀ r, ¬held st r) (key : String)
    (r : Response) : (cache.get key st).1 ≠ .ok (some r) := by
  intro hfound
  exact hempty r (h.found hfound)

namespace Server

/-- A response is held as a text that is read as it. -/
def Holds (s : Server) (r : Response) : Prop :=
  ∃ e ∈ s.texts, Response.parse e.2 = .ok r

theorem texts_get (key : String) (s : Server) : (s.get key).2.texts = s.texts := by
  unfold get
  split <;> rfl

theorem holds_of_get {s : Server} {key : String} {r : Response}
    (h : readStored (s.get key).1 = .ok (some r)) : s.Holds r := by
  unfold get at h
  split at h
  · simp [readStored] at h
  · cases htext : s.text? key with
    | none => simp [htext, readStored] at h
    | some text =>
      obtain ⟨e, he, rfl⟩ := Option.map_eq_some_iff.1 htext
      refine ⟨e, List.mem_of_find?_eq_some he, ?_⟩
      cases hparse : Response.parse e.2 with
      | error f => simp [htext, readStored, hparse] at h
      | ok r' =>
        obtain rfl : r' = r := by simpa [htext, readStored, hparse] using h
        rfl

theorem holds_setEx {s : Server} {key text : String} {seconds : Nat} {r : Response}
    (h : (s.setEx key seconds text).2.Holds r) : Response.parse text = .ok r ∨ s.Holds r := by
  unfold setEx at h
  split at h
  · exact .inr h
  · obtain ⟨e, he, hparse⟩ := h
    rcases List.mem_cons.1 he with rfl | he
    · exact .inl hparse
    · exact .inr ⟨e, he, hparse⟩

end Server

theorem returns_redis : redis.Returns Server.Holds where
  found h := Server.holds_of_get h
  get {key st r} h := by
    obtain ⟨e, he, hparse⟩ := h
    rw [redis] at he
    dsimp only at he
    rw [Server.texts_get] at he
    exact ⟨e, he, hparse⟩
  put h := .inr (Server.holds_setEx h)

end Widgetry.Cache
