import Widgetry.Http.Router
import Widgetry.Proofs.Json.Value
import Widgetry.Proofs.Service.Memo

/-!
Which origins may read an answer. The rule of configured origins is put into service by a layer that
refuses two mistakes: the wildcard in a list of origins, and credentials together with a wildcard.
Main statement: no list of configured origins makes either mistake, an entry that is `*` without the
white space around it opens the service to every origin but without credentials, and without such an
entry exactly the configured origins that a header can hold are granted, each to itself
(`origins_granted`).

Everything hangs on one test: an entry that passes it as no wildcard is trimmed the same way before
it is listed, so the list never holds one (`wildcard_not_mem_listed`).

The layer speaks of the first origin that a request names, and only in answers that it sees: those
to requests that were given up come from the time limit around it, and grant nothing to anyone
(`configured_origin_not_granted`).
-/

namespace Widgetry.Http

/-! ## 1. Layers -/

/-- What a layer grants of a kind: everything by the wildcard, what it lists, or whatever a request
asks for. -/
inductive Grant where
  | wildcard
  | listed (items : List String)
  | asked
  deriving Repr, DecidableEq

/-- Why a layer cannot be put into service. -/
inductive LayerFault where
  | wildcardInList
  | credentialsWithWildcard
  deriving Repr, DecidableEq

/-- The list of granted origins, which must not hold the wildcard. -/
def Grant.ofOrigins (origins : List String) : Except LayerFault Grant :=
  if origins.contains "*" then .error .wildcardInList else .ok (.listed origins)

/-- A layer that answers calls across origins. -/
structure Layer where
  origins : Grant
  methods : Grant
  headers : Grant
  exposed : Grant
  credentials : Bool
  deriving Repr, DecidableEq

namespace Layer

/-- The layer before its origins are configured: methods and headers are granted as requests ask for
them. -/
def base : Layer := ⟨.listed [], .asked, .asked, .listed [], false⟩

/-- Whether a layer grants anything by the wildcard. -/
def hasWildcard (l : Layer) : Bool :=
  [l.origins, l.methods, l.headers, l.exposed].contains .wildcard

/-- Puts a layer into service; with credentials it must not have a wildcard. -/
def install (l : Layer) : Except LayerFault Layer :=
  if l.credentials && l.hasWildcard then .error .credentialsWithWildcard else .ok l

/-- The layer of configured origins. -/
def ofConfigured (configured : List String) : Except LayerFault Layer :=
  if configured.any fun entry => Text.trimmed entry == "*" then
    { base with origins := .wildcard }.install
  else do
    let origins ← Grant.ofOrigins ((configured.map Text.trimmed).filter isHeaderValue)
    { base with origins, credentials := true }.install

/-- The origin that a layer grants to a request. -/
def allowedOrigin? (l : Layer) (request : Headers) : Option String :=
  match l.origins with
  | .wildcard => some "*"
  | .listed origins => (request.get? "origin").filter origins.contains
  | .asked => request.get? "origin"

/-- The headers of a layer that tell which origin may read an answer. -/
def originHeaders (l : Layer) (request : Headers) : Headers :=
  (l.allowedOrigin? request).toList.map (fun origin => ("access-control-allow-origin", origin))
    ++ if l.credentials then [("access-control-allow-credentials", "true")] else []

end Layer

/-! ## 2. The rule of configured origins -/

/-- An entry of the configured origins stands for all origins. -/
def OpensToAll (configured : List String) : Prop :=
  ∃ entry ∈ configured, Text.trimmed entry = "*"

/-- A configured origin, without the white space around it, that a header can hold. -/
def IsConfigured (configured : List String) (origin : String) : Prop :=
  ∃ entry ∈ configured, Text.trimmed entry = origin ∧ isHeaderValue origin = true

section

variable {configured : List String} {origin : String}

/-- The wildcard is found with white space around it too. -/
theorem contains_wildcard_iff :
    (configured.map Text.trimmed).contains "*" = true ↔ OpensToAll configured := by
  simp [OpensToAll]

/-- The origins that are listed are those that are configured and can be the value of a header. -/
theorem mem_listed_iff :
    origin ∈ (configured.map Text.trimmed).filter isHeaderValue
      ↔ IsConfigured configured origin := by
  simp only [List.mem_filter, List.mem_map, IsConfigured]
  constructor
  · rintro ⟨⟨entry, hentry, rfl⟩, hvalid⟩
    exact ⟨entry, hentry, rfl, hvalid⟩
  · rintro ⟨entry, hentry, rfl, hvalid⟩
    exact ⟨⟨entry, hentry, rfl⟩, hvalid⟩

/-- Where not all origins are allowed the wildcard is no origin. -/
theorem not_isConfigured_wildcard (h : ¬OpensToAll configured) : ¬IsConfigured configured "*" :=
  fun ⟨entry, hentry, heq, _⟩ => h ⟨entry, hentry, heq⟩

/-- Without an entry for all origins the list does not hold the wildcard. -/
theorem wildcard_not_mem_listed (h : ¬OpensToAll configured) :
    "*" ∉ (configured.map Text.trimmed).filter isHeaderValue :=
  mt mem_listed_iff.1 (not_isConfigured_wildcard h)

/-- A wildcard among the origins opens the service to all. -/
theorem ofOrigins_of_opensToAll (h : OpensToAll configured) : Cors.ofOrigins configured = .any := by
  rw [Cors.ofOrigins, if_pos (contains_wildcard_iff.2 h)]

/-- Without it only the listed origins are let in. -/
theorem ofOrigins_of_not_opensToAll (h : ¬OpensToAll configured) :
    Cors.ofOrigins configured
      = .listed ((configured.map Text.trimmed).filter isHeaderValue) := by
  rw [Cors.ofOrigins, if_neg (mt contains_wildcard_iff.1 h)]

/-- The layer of a rule. -/
def Cors.layer : Cors → Layer
  | .any => { Layer.base with origins := .wildcard }
  | .listed origins => { Layer.base with origins := .listed origins, credentials := true }

/-- The layer says the same of an origin as its configuration. -/
theorem Cors.originHeaders_layer (c : Cors) (request : Headers) :
    c.layer.originHeaders request = c.originHeaders request := by
  cases c with
  | any => rfl
  | listed origins =>
    rw [Layer.originHeaders, Layer.allowedOrigin?, Cors.originHeaders]
    dsimp only [layer]
    cases request.get? "origin" with
    | none => rfl
    | some o => by_cases ho : o ∈ origins <;> simp [Option.filter_some, ho]

/-- Every list of configured origins has a layer, which is that of its rule. -/
theorem Layer.ofConfigured_eq (configured : List String) :
    Layer.ofConfigured configured = .ok (Cors.ofOrigins configured).layer := by
  have htest : configured.any (fun entry => Text.trimmed entry == "*") = true
      ↔ OpensToAll configured := by
    simp [OpensToAll]
  by_cases h : OpensToAll configured
  · rw [ofConfigured, if_pos (htest.2 h), ofOrigins_of_opensToAll h]
    rfl
  · have hlist : Grant.ofOrigins ((configured.map Text.trimmed).filter isHeaderValue)
        = .ok (.listed ((configured.map Text.trimmed).filter isHeaderValue)) := by
      rw [Grant.ofOrigins, if_neg (by simpa using wildcard_not_mem_listed h)]
    rw [ofConfigured, if_neg (mt htest.1 h), hlist, ofOrigins_of_not_opensToAll h]
    rfl

end

/-! ## 3. Answers -/

/-- All values of a header. -/
def Headers.values (h : Headers) (name : String) : List String :=
  (h.filter fun e => e.1 == name).map Prod.snd

theorem Headers.values_append (h h' : Headers) (name : String) :
    Headers.values (h ++ h') name = Headers.values h name ++ Headers.values h' name := by
  rw [values, List.filter_append, List.map_append, values, values]

/-- Headers that say nothing about origins. -/
def Headers.Silent (h : Headers) : Prop :=
  ∀ e ∈ h, e.1 ≠ "access-control-allow-origin" ∧ e.1 ≠ "access-control-allow-credentials"

/-- Headers that are silent say nothing of origins. -/
theorem Headers.Silent.values_eq_nil {h : Headers} (hsilent : h.Silent) :
    h.values "access-control-allow-origin" = []
      ∧ h.values "access-control-allow-credentials" = [] := by
  constructor
  · rw [values, List.map_eq_nil_iff, List.filter_eq_nil_iff]
    exact fun e he => by simpa using (hsilent e he).1
  · rw [values, List.map_eq_nil_iff, List.filter_eq_nil_iff]
    exact fun e he => by simpa using (hsilent e he).2

theorem silent_documentOutcome (status : Nat) (v : Json.Value) (calls : List ModelCall) :
    (documentOutcome status v calls).headers.Silent := by
  simp [documentOutcome, Headers.Silent]

theorem silent_plainOutcome (status : Nat) (text : String) :
    (plainOutcome status text).headers.Silent := by
  simp [plainOutcome, Headers.Silent]

theorem silent_unreadOutcome (e : Json.Error) : (unreadOutcome e).headers.Silent := by
  unfold unreadOutcome
  cases e.problem <;> exact silent_plainOutcome _ _

/-- No handler says anything of origins, not even when it refuses a body. -/
theorem silent_of_readBody {α : Type} {read : Json.Decoder α} {request : Request} {o : Outcome}
    (h : readBody read request = .error o) : o.headers.Silent := by
  unfold readBody at h
  split at h
  · exact Except.error.inj h ▸ silent_plainOutcome _ _
  · split at h
    · exact Except.error.inj h ▸ silent_plainOutcome _ _
    · obtain ⟨e, -, rfl⟩ := Json.mapError_eq_error_iff.1 h
      exact silent_unreadOutcome e

section

variable {σ : Type} {service : Service} {cache : Cache σ} {model : Model} {cors : Cors}
  {request : Request} {st : ServiceState σ}

theorem silent_post (route : Route) :
    (post service cache model route request st).1.headers.Silent := by
  unfold post
  split
  · split
    · rename_i hread
      exact silent_of_readBody hread
    · split
      · dsimp only
        split <;> exact silent_documentOutcome _ _ _
      · exact silent_documentOutcome _ _ _
  · split
    · rename_i hread
      exact silent_of_readBody hread
    · split
      · dsimp only
        split <;> exact silent_documentOutcome _ _ _
      · exact silent_documentOutcome _ _ _
  · split
    · rename_i hread
      exact silent_of_readBody hread
    · split <;> exact silent_documentOutcome _ _ _

/-- What is behind the layer never says anything of origins. -/
theorem silent_serve (route : Route) :
    (serve service cache model route request st).1.headers.Silent := by
  unfold serve
  split
  · exact silent_post route
  · split
    · exact silent_documentOutcome _ _ _
    · split
      · exact silent_documentOutcome 200 .null []
      · simp [Headers.Silent]

/-- Nor does the rest of an answer to a preflight. -/
theorem silent_preflight (headers : Headers) (route : Option Route) :
    Headers.Silent (Cors.preflightHeaders headers ++ allowHeader route) := by
  intro e he
  rw [Cors.preflightHeaders, List.append_assoc, List.mem_append, List.mem_append] at he
  rcases he with he | he | he
  · split at he <;> simp_all
  · split at he <;> simp_all
  · cases route <;> simp_all [allowHeader]

/-- An answer has the header on what it varies by, what the rule says of the origin of the request,
and nothing else about origins. -/
theorem exists_headers_handle : ∃ rest : Headers, rest.Silent
    ∧ (handle service cache model cors request st).1.headers
      = Cors.varyHeader :: (cors.originHeaders request.headers ++ rest) := by
  unfold handle
  dsimp only
  split
  · refine ⟨_, silent_preflight request.headers (Route.ofTarget request.target), ?_⟩
    simp
  · cases Route.ofTarget request.target with
    | none => exact ⟨[], by simp [Headers.Silent], by simp⟩
    | some route => exact ⟨_, silent_serve route, List.cons_append ..⟩

/-- What an answer says about origins is what the rule says about the request. -/
theorem values_handle {name : String}
    (hname : name = "access-control-allow-origin" ∨ name = "access-control-allow-credentials") :
    (handle service cache model cors request st).1.headers.values name
      = (cors.originHeaders request.headers).values name := by
  obtain ⟨rest, hrest, heq⟩ : ∃ rest : Headers, rest.Silent
      ∧ (handle service cache model cors request st).1.headers
        = Cors.varyHeader :: (cors.originHeaders request.headers ++ rest) := exists_headers_handle
  obtain ⟨horigin, hcredentials⟩ := hrest.values_eq_nil
  have hvary : Headers.values [Cors.varyHeader] name = [] := by
    rcases hname with rfl | rfl <;> decide
  have hnothing : rest.values name = [] := by
    rcases hname with rfl | rfl
    · exact horigin
    · exact hcredentials
  rw [heq, ← List.singleton_append, Headers.values_append, Headers.values_append, hvary, hnothing,
    List.nil_append, List.append_nil]

end

/-! ## 4. What is granted -/

/-- What an answer to a request from an origin says about origins. -/
structure Granted (configured : List String) (origin : String) (answer : Headers) : Prop where
  /-- If an entry stands for all origins, all are allowed, without credentials. -/
  toAll : OpensToAll configured →
    answer.values "access-control-allow-origin" = ["*"]
      ∧ answer.values "access-control-allow-credentials" = []
  /-- Otherwise a configured origin is allowed itself, and no other origin is. -/
  toListed : ¬OpensToAll configured →
    (answer.values "access-control-allow-origin" = [origin] ↔ IsConfigured configured origin)
      ∧ (¬IsConfigured configured origin → answer.values "access-control-allow-origin" = [])
      ∧ "*" ∉ answer.values "access-control-allow-origin"

variable {configured : List String} {origin : String} {request : Headers}

/-- What the layer says of the origin that a request names is what is granted to it. -/
theorem granted_originHeaders (horigin : request.get? "origin" = some origin) :
    Granted configured origin ((Cors.ofOrigins configured).originHeaders request) where
  toAll h := by
    rw [ofOrigins_of_opensToAll h]
    exact ⟨rfl, rfl⟩
  toListed h := by
    rw [ofOrigins_of_not_opensToAll h, Cors.originHeaders, horigin, Headers.values_append]
    have hcredentials :
        Headers.values [("access-control-allow-credentials", "true")]
          "access-control-allow-origin" = [] := by decide
    dsimp only
    rw [hcredentials, List.append_nil]
    by_cases hlisted : IsConfigured configured origin
    · have hcontains :
          ((configured.map Text.trimmed).filter isHeaderValue).contains origin = true := by
        simpa using mem_listed_iff.2 hlisted
      have hvalues : Headers.values [("access-control-allow-origin", origin)]
          "access-control-allow-origin" = [origin] := rfl
      rw [if_pos hcontains, hvalues]
      refine ⟨iff_of_true rfl hlisted, fun hnot => absurd hlisted hnot, ?_⟩
      rw [List.mem_singleton]
      rintro rfl
      exact not_isConfigured_wildcard h hlisted
    · have hcontains :
          ¬((configured.map Text.trimmed).filter isHeaderValue).contains origin = true := by
        simpa using mt mem_listed_iff.1 hlisted
      rw [if_neg hcontains]
      exact ⟨iff_of_false nofun hlisted, fun _ => rfl, nofun⟩

/-- An answer in which a configured origin is not allowed does not grant what is configured. -/
theorem not_granted {answer : Headers} (hopen : ¬OpensToAll configured)
    (horigin : IsConfigured configured origin)
    (hvalues : answer.values "access-control-allow-origin" = []) :
    ¬Granted configured origin answer := by
  intro h
  have hallowed := (h.toListed hopen).1.2 horigin
  simp [hvalues] at hallowed

/-! ## 5. Answers in time and others -/

section

variable {σ : Type} (service : Service) (cache : Cache σ) (model : Model) {server : ServerSettings}
  {pace : Pace} (request : Request) (st : ServiceState σ)

/-- In time, the answer is the one of the layers inside. -/
theorem answer_of_le (htime : pace.took ≤ 1000 * server.requestTimeoutSeconds) :
    answer service cache model server pace request st
      = handle service cache model (Cors.ofOrigins server.corsOrigins) request st := by
  rw [answer, if_pos htime]

/-- A request that was given up is answered by the limit alone. -/
theorem exists_answer_of_lt (hlate : 1000 * server.requestTimeoutSeconds < pace.took) :
    ∃ calls, (answer service cache model server pace request st).1 = givenUp calls := by
  rw [answer, if_neg (Nat.not_le.2 hlate)]
  exact ⟨_, rfl⟩

/-- What an answer in time says about origins is what the rule says of the origin of the request. -/
theorem granted_answer (htime : pace.took ≤ 1000 * server.requestTimeoutSeconds) {origin : String}
    (horigin : request.headers.get? "origin" = some origin) :
    Granted server.corsOrigins origin
      (answer service cache model server pace request st).1.headers := by
  have hrule : Granted server.corsOrigins origin
      ((Cors.ofOrigins server.corsOrigins).originHeaders request.headers) :=
    granted_originHeaders horigin
  rw [answer_of_le service cache model request st htime]
  constructor
  · rw [values_handle (.inl rfl), values_handle (.inr rfl)]
    exact hrule.toAll
  · rw [values_handle (.inl rfl)]
    exact hrule.toListed

end

/-- **No list of configured origins keeps the service from starting or opens it with credentials.**
Every list has a layer, which says of each request what the rule of the list says. Whatever is asked
from an origin, ahead of a request or by one, and answered in time: if an entry stands for all
origins the answer allows them all and carries no credentials; otherwise it allows the origin
exactly if it is a configured one that a header can hold, and never all. The origin of a request is
the first that its headers name. A request that was given up is answered outside the layer, without
a word about origins. -/
theorem origins_granted (server : ServerSettings) :
    (∃ layer, Layer.ofConfigured server.corsOrigins = .ok layer
      ∧ ∀ request, layer.originHeaders request
        = (Cors.ofOrigins server.corsOrigins).originHeaders request)
      ∧ ∀ {σ : Type} (service : Service) (cache : Cache σ) (model : Model) (pace : Pace)
        (request : Request) (st : ServiceState σ),
        (pace.took ≤ 1000 * server.requestTimeoutSeconds →
          ∀ origin, request.headers.get? "origin" = some origin →
            Granted server.corsOrigins origin
              (answer service cache model server pace request st).1.headers)
        ∧ (1000 * server.requestTimeoutSeconds < pace.took →
          (answer service cache model server pace request st).1.status = 408
            ∧ (answer service cache model server pace request st).1.headers = []) := by
  refine ⟨⟨_, Layer.ofConfigured_eq _, Cors.originHeaders_layer _⟩, ?_⟩
  intro σ service cache model pace request st
  refine ⟨fun htime origin => granted_answer service cache model request st htime, fun hlate => ?_⟩
  obtain ⟨calls, hanswer⟩ := exists_answer_of_lt service cache model request st hlate
  rw [hanswer]
  exact ⟨rfl, rfl⟩

/-- A server that gives requests two minutes, with these origins. -/
def patientServer (configured : List String) : ServerSettings := ⟨"0.0.0.0", 8000, 120, configured⟩

/-- A question about the health of the service from some origins. -/
def askedFrom (origins : List String) : Request :=
  ⟨"GET", "/health", origins.map fun origin => ("origin", origin), ""⟩

/-- A preflight from an origin that is configured with white space around it, among entries that no
header can hold; one where another entry is the wildcard; and one that takes too long. -/
theorem origins_granted_padded :
    let origin := "https://a.example"
    let asks : Request := { askedFrom [origin] with method := "OPTIONS" }
    let reply (configured : List String) (took : Nat) := (answer Service.numberedService .inProcess
      Service.absentModel (patientServer configured) ⟨took, .body⟩ asks ⟨[], 0, 0⟩).1
    asks.headers.get? "origin" = some origin
      ∧ (reply ["\n", "a\x00b", " https://a.example\t"] 10).headers.values
        "access-control-allow-origin" = [origin]
      ∧ (reply ["https://a.example", "\u00a0* "] 10).headers.values "access-control-allow-origin"
        = ["*"]
      ∧ (reply ["https://a.example", "\u00a0* "] 10).headers.values
        "access-control-allow-credentials" = []
      ∧ (reply ["https://a.example"] 120001).status = 408
      ∧ (reply ["https://a.example"] 120001).headers = [] := by
  intro origin asks reply
  have horigin : asks.headers.get? "origin" = some origin := rfl
  have htime : 10 ≤ 1000 * 120 := by decide
  have hgranted (configured : List String) :
      Granted configured origin (reply configured 10).headers :=
    ((origins_granted (patientServer configured)).2 Service.numberedService .inProcess
      Service.absentModel ⟨10, .body⟩ asks ⟨[], 0, 0⟩).1 htime origin horigin
  have hlate := ((origins_granted (patientServer ["https://a.example"])).2 Service.numberedService
    .inProcess Service.absentModel ⟨120001, .body⟩ asks ⟨[], 0, 0⟩).2 (by decide)
  have hclosed : ¬OpensToAll ["\n", "a\x00b", " https://a.example\t"] := by
    rw [← contains_wildcard_iff]
    decide +kernel
  have hconfigured : IsConfigured ["\n", "a\x00b", " https://a.example\t"] origin :=
    mem_listed_iff.1 (by decide +kernel)
  have hall : OpensToAll ["https://a.example", "\u00a0* "] :=
    contains_wildcard_iff.1 (by decide +kernel)
  obtain ⟨hwildcard, hcredentials⟩ := (hgranted _).toAll hall
  exact ⟨horigin, ((hgranted _).toListed hclosed).1.2 hconfigured, hwildcard, hcredentials, hlate⟩

/-- What is configured is not granted to every origin that a request names, nor by every answer. Of
several origins the first one counts, even if another one is configured; and an answer to a request
that was given up says nothing to a configured origin. -/
theorem configured_origin_not_granted :
    let origin := "http://localhost:3000"
    let other := "https://other.example"
    let reply (took : Nat) (request : Request) := (answer Service.numberedService .inProcess
      Service.absentModel (patientServer [origin]) ⟨took, .body⟩ request ⟨[], 0, 0⟩).1
    IsConfigured [origin] origin
      ∧ origin ∈ (askedFrom [other, origin, other]).headers.values "origin"
      ∧ ¬Granted [origin] origin (reply 10 (askedFrom [other, origin, other])).headers
      ∧ (askedFrom [origin]).headers.get? "origin" = some origin
      ∧ ¬Granted [origin] origin (reply 120001 (askedFrom [origin])).headers := by
  intro origin other reply
  have hconfigured : IsConfigured [origin] origin := mem_listed_iff.1 (by decide +kernel)
  have hclosed : ¬OpensToAll [origin] := by
    rw [← contains_wildcard_iff]
    decide +kernel
  have hother : (reply 10 (askedFrom [other, origin, other])).headers.values
      "access-control-allow-origin" = [] := by decide +kernel
  have hlate : (reply 120001 (askedFrom [origin])).headers.values
      "access-control-allow-origin" = [] := by decide +kernel
  exact ⟨hconfigured, by decide, not_granted hclosed hconfigured hother, rfl,
    not_granted hclosed hconfigured hlate⟩

end Widgetry.Http
