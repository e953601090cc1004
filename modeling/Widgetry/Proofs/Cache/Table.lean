import Widgetry.Cache.Basic

/-!
The table of the cache in the process. A response that was stored under a key is found there
(`response?_put_self`), and storing it changes nothing under other keys (`response?_put_of_ne`).
The keys of two prompts are equal exactly if the prompts agree but for the white space around them.
The caches in the process hold no response that was not stored in them (`Cache.GivesBack`).

The last statement is what runs of a service need to know of its cache, and all of it. A property of
responses that holds of everything that is stored holds of everything that is found, also where
look-ups or stores fail, and where entries expire.
-/

namespace Widgetry

/-- A key tells its prompt but for the white space around it. -/
theorem cacheKey_inj {p q : String} :
    cacheKey p = cacheKey q ↔ Text.trimmed p = Text.trimmed q := by
  rw [cacheKey, cacheKey, String.append_right_inj]

namespace Cache.Table

theorem find?_cons (e : String × Entry) (t : Table) (key : String) :
    Table.find? (e :: t) key = if e.1 = key then some e.2 else t.find? key := by
  by_cases h : e.1 = key <;> simp [Table.find?, h]

/-- What was set last is found. -/
theorem find?_set_self (t : Table) (key : String) (entry : Entry) :
    (t.set key entry).find? key = some entry := by
  induction t with
  | nil => simp [set, find?_cons]
  | cons e rest ih =>
    obtain ⟨k, v⟩ := e
    by_cases h : k = key
    · simp [set, h, find?_cons]
    · simp [set, h, find?_cons, ih]

/-- Under other keys nothing changes. -/
theorem find?_set_of_ne {key other : String} (h : other ≠ key) (t : Table) (entry : Entry) :
    (t.set key entry).find? other = t.find? other := by
  induction t with
  | nil => simp [set, find?_cons, Ne.symm h]
  | cons e rest ih =>
    obtain ⟨k, v⟩ := e
    by_cases hk : k = key
    · simp [set, hk, find?_cons, Ne.symm h]
    · simp [set, hk, find?_cons, ih]

/-- A stored response is found, unless it expires at once. -/
theorem response?_put_self (t : Table) (key : String) (r : Response) {ttl : Nat} (h : 0 < ttl) :
    (t.put key r ttl).response? key = some r := by
  rw [put, response?]
  split <;> simp [find?_set_self, h]

/-- Under other keys nothing changes for those who look up responses. -/
theorem response?_put_of_ne {key other : String} (h : other ≠ key) (t : Table) (r : Response)
    (ttl : Nat) : (t.put key r ttl).response? other = t.response? other := by
  rw [put, response?, response?]
  split <;> rw [find?_set_of_ne h]

/-- A response is held under some key, whether it can still be found or not. -/
def Holds (t : Table) (r : Response) : Prop :=
  ∃ e ∈ t, e.2.response = r

/-- An empty table holds nothing. -/
theorem not_holds_nil (r : Response) : ¬Holds [] r := by
  rintro ⟨e, he, -⟩
  exact absurd he List.not_mem_nil

/-- What is found is held. -/
theorem holds_of_response? {t : Table} {key : String} {r : Response}
    (h : t.response? key = some r) : t.Holds r := by
  obtain ⟨entry, hfind, hlive⟩ := Option.bind_eq_some_iff.1 h
  obtain ⟨e, he, rfl⟩ := Option.map_eq_some_iff.1 hfind
  obtain ⟨-, hr⟩ := Option.ite_none_right_eq_some.1 hlive
  exact ⟨e, List.mem_of_find?_eq_some he, Option.some.inj hr⟩

/-- A table holds what was set and what it held before. -/
theorem holds_set {t : Table} {key : String} {entry : Entry} {r : Response}
    (h : (t.set key entry).Holds r) : r = entry.response ∨ t.Holds r := by
  induction t with
  | nil =>
    obtain ⟨e, he, rfl⟩ := h
    exact .inl (by rw [List.mem_singleton.1 he])
  | cons head rest ih =>
    obtain ⟨e, he, rfl⟩ := h
    rw [set] at he
    split at he
    · rcases List.mem_cons.1 he with rfl | he
      · exact .inl rfl
      · exact .inr ⟨e, List.mem_cons_of_mem _ he, rfl⟩
    · rcases List.mem_cons.1 he with rfl | he
      · exact .inr ⟨_, List.mem_cons_self, rfl⟩
      · rcases ih ⟨e, he, rfl⟩ with h | ⟨e', he', h⟩
        · exact .inl h
        · exact .inr ⟨e', List.mem_cons_of_mem _ he', h⟩

/-- A table holds what was put and what it held before. -/
theorem holds_put {t : Table} {key : String} {stored r : Response} {ttl : Nat}
    (h : (t.put key stored ttl).Holds r) : r = stored ∨ t.Holds r := by
  rw [put] at h
  split at h <;> exact holds_set h

end Cache.Table

/-! ## Caches that give back what was stored -/

/-- A cache gives back only what was stored in it: what is found under a key is held, looking a key
up adds nothing, and storing a response adds this response alone. It may forget. -/
structure Cache.GivesBack {σ : Type} (cache : Cache σ) (held : σ → Response → Prop) : Prop where
  found : ∀ {key st r}, (cache.get key st).1 = .ok (some r) → held st r
  get : ∀ {key st r}, held (cache.get key st).2 r → held st r
  put : ∀ {key st stored ttl r}, held (cache.put key stored ttl st).2 r → r = stored ∨ held st r

namespace Cache

/-- The disabled cache gives nothing back. -/
theorem givesBack_disabled : disabled.GivesBack fun _ _ => False where
  found h := by simp [disabled] at h
  get h := h
  put h := .inr h

/-- The cache of the process gives back what its table holds. -/
theorem givesBack_inProcess : inProcess.GivesBack Table.Holds where
  found h := Table.holds_of_response? (Except.ok.inj h)
  get h := h
  put h := Table.holds_put h

/-- A cache that fails at every look-up gives back nothing, and so nothing that it does not hold. -/
theorem givesBack_failingGet : failingGet.GivesBack Table.Holds where
  found h := nomatch h
  get h := h
  put h := Table.holds_put h

/-- A cache that fails at every put gives back what it was started with, and nothing else. -/
theorem givesBack_failingPut : failingPut.GivesBack Table.Holds where
  found h := Table.holds_of_response? (Except.ok.inj h)
  get h := h
  put h := .inr h

end Cache

end Widgetry
