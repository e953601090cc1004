import Widgetry.Proofs.Cache.Server
import Widgetry.Proofs.Widget.Response

/-!
The backends of a cache are interchangeable. As long as nothing expires, both the cache in the
process and the one on a server answer from what was put last under a key (`Cache.lastPut`), though
one keeps responses and the other keeps their texts. So they give the same replies to any sequence
of uses, field for field, and never fail (`Cache.replies_redis_eq`).

What a backend has to do for this is said once for all of them: its states show what is remembered
under each key, a look-up answers with it, and a store replaces it (`Cache.Remembers`). For the
server this rests on the text of a response being read as that response.
-/

namespace Widgetry.Cache

variable {σ : Type}

/-! ## 1. Uses and replies -/

/-- A use of a cache. -/
inductive Use where
  | get (key : String)
  | put (key : String) (r : Response) (ttl : Nat)
  deriving DecidableEq

/-- What a use of a cache comes back with. -/
inductive Reply where
  | found (result : Except CacheError (Option Response))
  | stored (result : Except CacheError Unit)

/-- Uses a cache once. -/
def use (cache : Cache σ) : Use → σ → Reply × σ
  | .get key, st => ((.found (cache.get key st).1), (cache.get key st).2)
  | .put key r ttl, st => (.stored (cache.put key r ttl st).1, (cache.put key r ttl st).2)

/-- The replies of a cache that is used several times. -/
def replies (cache : Cache σ) : List Use → σ → List Reply
  | [], _ => []
  | u :: us, st => (cache.use u st).1 :: replies cache us (cache.use u st).2

/-- The response that a use puts under a key. -/
def Use.put? (key : String) : Use → Option Response
  | .get _ => none
  | .put key' r _ => if key = key' then some r else none

/-- The response that was put last under a key. -/
def lastPut (past : List Use) (key : String) : Option Response :=
  past.reverse.findSome? (Use.put? key)

/-- The reply of a cache that remembers everything: the response of the last put under the key, and
no failure. -/
def Use.reply (past : List Use) : Use → Reply
  | .get key => .found (.ok (lastPut past key))
  | .put .. => .stored (.ok ())

/-- What is put is to last for some time, and it is a response for a description that can have been
decoded. -/
def Use.Lasting : Use → Prop
  | .get _ => True
  | .put _ r ttl => 0 < ttl ∧ r.widget.OwnsTags

theorem lastPut_concat_get (past : List Use) (key : String) :
    lastPut (past ++ [.get key]) = lastPut past := by
  funext other
  simp [lastPut, List.findSome?_cons, Use.put?]

theorem lastPut_concat_put (past : List Use) (key : String) (r : Response) (ttl : Nat) :
    lastPut (past ++ [.put key r ttl])
      = fun other => if other = key then some r else lastPut past other := by
  funext other
  by_cases h : other = key <;> simp [lastPut, Use.put?, h]

/-! ## 2. Caches that remember -/

/-- A cache remembers: in each of its states some responses are known by their keys, a look-up
answers with what is known and changes nothing about it, and after a store that is to last the
response is known under its key, and all else as before. -/
structure Remembers (cache : Cache σ) (known : σ → (String → Option Response) → Prop) : Prop where
  get : ∀ {st f} key, known st f →
    (cache.get key st).1 = .ok (f key) ∧ known (cache.get key st).2 f
  put : ∀ {st f} key r ttl, 0 < ttl → r.widget.OwnsTags → known st f →
    (cache.put key r ttl st).1 = .ok ()
      ∧ known (cache.put key r ttl st).2 fun other => if other = key then some r else f other

variable {cache : Cache σ} {known : σ → (String → Option Response) → Prop}

/-- One use is replied to from what was put before, which the next state knows with this use. -/
theorem Remembers.use (h : cache.Remembers known) {u : Use} (hu : u.Lasting) {past : List Use}
    {st : σ} (hst : known st (lastPut past)) :
    (cache.use u st).1 = u.reply past ∧ known (cache.use u st).2 (lastPut (past ++ [u])) := by
  cases u with
  | get key =>
    obtain ⟨hreply, hafter⟩ := h.get key hst
    rw [lastPut_concat_get]
    exact ⟨congrArg Reply.found hreply, hafter⟩
  | put key r ttl =>
    obtain ⟨hreply, hafter⟩ := h.put key r ttl hu.1 hu.2 hst
    rw [lastPut_concat_put]
    exact ⟨congrArg Reply.stored hreply, hafter⟩

/-- The replies to a sequence of uses are told by the uses alone. -/
theorem Remembers.replies_eq (h : cache.Remembers known) {uses : List Use}
    (huses : ∀ u ∈ uses, u.Lasting) (past : List Use) {st : σ} (hst : known st (lastPut past)) :
    cache.replies uses st = uses.mapIdx fun i u => u.reply (past ++ uses.take i) := by
  induction uses generalizing past st with
  | nil => rfl
  | cons u us ih =>
    obtain ⟨hu, hus⟩ := List.forall_mem_cons.1 huses
    obtain ⟨hreply, hafter⟩ := h.use hu hst
    rw [replies, hreply, ih hus _ hafter, List.mapIdx_cons]
    simp [List.append_assoc]

/-! ## 3. The backends -/

/-- What the cache in the process knows. -/
def Table.Knows (t : Table) (f : String → Option Response) : Prop :=
  ∀ key, t.response? key = f key

theorem remembers_inProcess : inProcess.Remembers Table.Knows where
  get key hst := ⟨congrArg Except.ok (hst key), hst⟩
  put {st f} key r ttl httl _ hst := by
    refine ⟨rfl, fun other => ?_⟩
    show (st.put key r ttl).response? other = if other = key then some r else f other
    by_cases h : other = key
    · rw [if_pos h, h, Table.response?_put_self st key r httl]
    · rw [if_neg h, Table.response?_put_of_ne h, hst other]

namespace Server

/-- A server knows the responses that its texts are read as; it fails on no key. -/
structure Knows (s : Server) (f : String → Option Response) : Prop where
  works : s.broken = []
  reads : ∀ key, readStored (.ok (s.text? key)) = .ok (f key)

theorem text?_cons (key text : String) (texts : List (String × String)) (broken : List String)
    (received : List Command) (other : String) :
    text? ⟨(key, text) :: texts, broken, received⟩ other
      = if other = key then some text else text? ⟨texts, broken, received⟩ other := by
  by_cases h : other = key
  · simp [text?, h]
  · simp [text?, h, Ne.symm h]

theorem get_of_works {s : Server} (h : s.broken = []) (key : String) :
    s.get key = (.ok (s.text? key), { s with received := .get key :: s.received }) := by
  rw [get, h]
  rfl

theorem setEx_of_works {s : Server} (h : s.broken = []) (key : String) (seconds : Nat)
    (text : String) :
    s.setEx key seconds text = (.ok (), ⟨(key, text) :: s.texts, s.broken,
      .setEx key seconds text :: s.received⟩) := by
  rw [setEx, h]
  rfl

/-- An empty server that works knows nothing. -/
theorem knows_empty (received : List Command) :
    Knows ⟨[], [], received⟩ (lastPut []) :=
  ⟨rfl, fun _ => rfl⟩

end Server

theorem remembers_redis : redis.Remembers Server.Knows where
  get {st f} key hst := by
    rw [redis]
    dsimp only
    rw [Server.get_of_works hst.works]
    exact ⟨hst.reads key, hst.works, hst.reads⟩
  put {st f} key r ttl _ htags hst := by
    rw [redis]
    dsimp only
    rw [Server.setEx_of_works hst.works]
    refine ⟨rfl, hst.works, fun other => ?_⟩
    rw [Server.text?_cons]
    by_cases h : other = key
    · have hparse : Response.parse r.text = .ok r := Response.parse_saved htags .compact
      rw [if_pos h, if_pos h, readStored, hparse]
    · rw [if_neg h, if_neg h]
      exact hst.reads other

/-- **The backends are interchangeable**: starting empty, and as long as nothing expires, a server
that keeps texts gives the replies of the cache in the process to any sequence of uses, and these
are found in the sequence itself: a look-up gives the response that was put last under its key, and
no use fails. -/
theorem replies_redis_eq {uses : List Use} (h : ∀ u ∈ uses, u.Lasting) (received : List Command) :
    redis.replies uses ⟨[], [], received⟩ = inProcess.replies uses []
      ∧ inProcess.replies uses [] = uses.mapIdx fun i u => u.reply (uses.take i) := by
  have htable : inProcess.replies uses [] = uses.mapIdx fun i u => u.reply (uses.take i) :=
    remembers_inProcess.replies_eq h [] fun _ => rfl
  have hserver : redis.replies uses ⟨[], [], received⟩
      = uses.mapIdx fun i u => u.reply (uses.take i) :=
    remembers_redis.replies_eq h [] (Server.knows_empty received)
  exact ⟨hserver.trans htable.symm, htable⟩

/-- A response whose code and document are full of quotes, with an element of an unknown kind. -/
def quotedResponse : Response where
  widgetId := "widget-1"
  widget :=
    { Description.blank .quiz "\"Quiz\"\n\\" with
      elements := [Element.plain (.other "sli\"der") "a\u2028" "</script>"] }
  reactCode := "const label = \"\\\"\\u003c\\\\\";\n"
  embedCode := "<div id=\"&#34;\"></div>"
  timestamp := "2024-01-01T00:00:00Z"

theorem ownsTags_quotedResponse : quotedResponse.widget.OwnsTags := by
  intro e he
  obtain rfl := List.mem_singleton.1 he
  exact ElementKind.ownsTag_ofTag "sli\"der"

theorem replies_redis_eq_quotedResponse :
    let uses : List Use :=
      [.get "widget:quiz", .put "widget:quiz" quotedResponse 1500,
       .put "widget:" { quotedResponse with widgetId := "widget-2" } 1, .get "widget:quiz",
       .put "widget:quiz" { quotedResponse with reactCode := "" } 60000, .get "widget:quiz"]
    (∀ u ∈ uses, u.Lasting)
      ∧ redis.replies uses ⟨[], [], []⟩
        = [.found (.ok none), .stored (.ok ()), .stored (.ok ()),
          .found (.ok (some quotedResponse)), .stored (.ok ()),
          .found (.ok (some { quotedResponse with reactCode := "" }))] := by
  intro uses
  have huses : ∀ u ∈ uses, u.Lasting := by
    simp only [uses, List.forall_mem_cons, List.not_mem_nil, false_implies, implies_true, and_true,
      Use.Lasting, true_and]
    exact ⟨⟨by decide, ownsTags_quotedResponse⟩, ⟨by decide, ownsTags_quotedResponse⟩,
      ⟨by decide, ownsTags_quotedResponse⟩⟩
  obtain ⟨hsame, hreplies⟩ := replies_redis_eq huses []
  exact ⟨huses, hsame.trans (hreplies.trans rfl)⟩

end Widgetry.Cache
