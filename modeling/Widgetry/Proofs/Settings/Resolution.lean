import Widgetry.Proofs.Settings.Overlay
import Widgetry.Settings.Loading

/-!
Where a setting comes from. Main statement: `settings_resolved`. A setting that is loaded is
determined by its own variable, else by its own entry of the file, else by its default, and by
nothing else; the two secrets fall back to a variable of their own where that leaves them blank.

All of it rests on one equation (`Setting.read?_overlayAll`): to read a setting from the layers put
together is to read the value that its own layers give it. An entry of a section that is an array
has no key, and there is one way in which other settings reach it: the array gives way to a table as
soon as one setting of the section has a variable (`Setting.isDisplaced`). That this does happen is
`setting_lost_with_listed_section`.
-/

namespace Widgetry

open Toml (Value lookup?)
open Settings (Environment overlay overlayAll variableValue ofDocument section? loadDocument
  loadFrom nonBlank?)

namespace Setting

/-! ## 1. The layers of one setting -/

/-- The entry of a setting: the value under its key, or the item at its place where the section is
an array. -/
def found? (s : Setting) (v : Value) : Option Value :=
  match v.get? [s.group] with
  | some (.table es) => lookup? s.key es
  | some (.array items) => items[s.index]?
  | _ => none

/-- Whether a setting of a section has a variable. -/
def isOverlaid (environment : Environment) (group : String) : Bool :=
  all.any fun s => s.group == group && (environment.get? s.variableName).isSome

/-- Whether the entry of a setting gives way to a variable of its section: it does where the section
is an array. -/
def isDisplaced (s : Setting) (v : Value) (environment : Environment) : Bool :=
  match v.get? [s.group] with
  | some (.array _) => isOverlaid environment s.group
  | _ => false

/-- The value that the layers give to a setting: the one of its variable, or else its entry. -/
def layered? (s : Setting) (v : Value) (environment : Environment) : Option Value :=
  ((environment.get? s.variableName).map (variableValue s.dotted)).or
    (if s.isDisplaced v environment then none else s.found? v)

/-- What a setting is set to by a value, or by its default if there is none. -/
def setTo? (s : Setting) : Option Value → Option s.Kind
  | some v => s.convert v
  | none => some s.default

/-- A section is overlaid if a variable of the environment names one of its settings. -/
theorem isOverlaid_iff {environment : Environment} {group : String} :
    isOverlaid environment group = true
      ↔ ∃ s : Setting, s.group = group ∧ ∃ e ∈ environment.entries, e.1 = s.variableName := by
  simp only [isOverlaid, List.any_eq_true, Bool.and_eq_true, beq_iff_eq, Dictionary.get?,
    Option.isSome_map, List.find?_isSome]
  constructor
  · rintro ⟨s, -, hgroup, hset⟩
    exact ⟨s, hgroup, hset⟩
  · rintro ⟨s, hgroup, hset⟩
    exact ⟨s, s.mem_all, hgroup, hset⟩

/-! ## 2. Reading a setting from the layers put together -/

/-- A section of the layers put together is a table if a setting of it has a variable, and otherwise
what it was. -/
theorem group_overlayAll_cases {environment : Environment} (h : NamesSettings environment.entries)
    (group : String) (v : Value) :
    isOverlaid environment group = true ∧ IsTableAt group (overlayAll v environment)
      ∨ isOverlaid environment group = false
        ∧ (overlayAll v environment).get? [group] = v.get? [group] := by
  cases hover : isOverlaid environment group with
  | true => exact .inl ⟨rfl, isTableAt_foldl_overlay h (.inr (isOverlaid_iff.1 hover))⟩
  | false =>
    refine .inr ⟨rfl, get?_group_foldl_overlay h (fun s hgroup e he hname => ?_) v⟩
    have hset : isOverlaid environment group = true := isOverlaid_iff.2 ⟨s, hgroup, e, he, hname⟩
    rw [hover] at hset
    exact Bool.false_ne_true hset

/-- Where no variable names a setting of the section none sets this one. -/
theorem get?_variableName_of_not_isOverlaid (s : Setting) {environment : Environment}
    (h : isOverlaid environment s.group = false) : environment.get? s.variableName = none := by
  rw [isOverlaid, List.any_eq_false] at h
  simpa using h s s.mem_all

/-- A setting is found under its key in a table, and nowhere else by its path. -/
theorem get?_path (s : Setting) (v : Value) :
    v.get? s.path = match v.get? [s.group] with
      | some (.table es) => lookup? s.key es
      | _ => none := by
  simp only [path, Value.get?]
  cases lookup? s.group v.entries with
  | none => rfl
  | some inner => cases inner <;> simp [Value.entries, lookup?]; cases lookup? s.key _ <;> rfl

/-- An overlaid section is a table, and what was there as an array is gone. -/
theorem get?_path_of_isOverlaid (s : Setting) {environment : Environment}
    (h : isOverlaid environment s.group = true) (v : Value) :
    v.get? s.path = if s.isDisplaced v environment then none else s.found? v := by
  rw [get?_path, isDisplaced, found?]
  cases v.get? [s.group] with
  | none => rfl
  | some inner => cases inner <;> simp [h]

/-- A section that no variable names keeps its form. -/
theorem isDisplaced_of_not_isOverlaid (s : Setting) {environment : Environment}
    (h : isOverlaid environment s.group = false) (v : Value) :
    s.isDisplaced v environment = false := by
  rw [isDisplaced, h]
  split <;> rfl

/-- The entry of a setting when all variables are put on. -/
theorem found?_overlayAll (s : Setting) {environment : Environment}
    (h : NamesSettings environment.entries) (v : Value) :
    s.found? (overlayAll v environment) = s.layered? v environment := by
  rcases group_overlayAll_cases h s.group v with ⟨hover, es, hes⟩ | ⟨hover, hkept⟩
  · -- The section is a table now, so the entry is what stands at the place of the setting.
    have hentry : s.found? (overlayAll v environment)
        = (overlayAll v environment).get? s.path := by
      rw [get?_path, found?, hes]
    rw [hentry, overlayAll, get?_foldl_overlay s environment.ascending h,
      s.get?_path_of_isOverlaid hover, layered?, Dictionary.get?]
  · -- The section is as it was, and the setting has no variable.
    rw [layered?, s.get?_variableName_of_not_isOverlaid hover,
      s.isDisplaced_of_not_isOverlaid hover, found?, hkept, found?]
    rfl

/-- Variables make no section unreadable. -/
theorem isSome_section?_overlayAll (s : Setting) {environment : Environment}
    (h : NamesSettings environment.entries) {v : Value} (hv : (section? v s.group).isSome) :
    (section? (overlayAll v environment) s.group).isSome := by
  rcases group_overlayAll_cases h s.group v with ⟨-, es, hes⟩ | ⟨-, hkept⟩
  · rw [section?, hes]
    rfl
  · rw [section?, hkept]
    exact hv

/-- Reading a setting in its section is reading the value that is found there. -/
theorem readIn?_eq_setTo? (s : Setting) (found : Settings.Section) :
    s.readIn? found = s.setTo? (found.value? s.index s.key) := by
  rw [readIn?, Settings.Section.read]
  cases found.value? s.index s.key <;> rfl

/-- The value that a section has for a setting is the one found for it. -/
theorem value?_section? (s : Setting) {v : Value} {found : Settings.Section}
    (h : section? v s.group = some found) : found.value? s.index s.key = s.found? v := by
  rw [section?] at h
  rw [found?]
  cases hv : v.get? [s.group] with
  | none =>
    rw [hv] at h
    rw [← Option.some.inj h]
    rfl
  | some inner =>
    rw [hv] at h
    cases inner with
    | table es =>
      rw [← Option.some.inj h]
      rfl
    | array items =>
      rw [← Option.some.inj h]
      rfl
    | _ => cases h

/-- To read a setting is to read its entry, if there is a section to look for it. -/
theorem read?_eq_setTo? (s : Setting) {v : Value} (hv : (section? v s.group).isSome) :
    s.read? v = s.setTo? (s.found? v) := by
  obtain ⟨found, hfound⟩ := Option.isSome_iff_exists.1 hv
  rw [read?, hfound, Option.bind_some, readIn?_eq_setTo?, s.value?_section? hfound]

/-- A setting is read only where its section is a section. -/
theorem isSome_section?_of_read? {s : Setting} {v : Value} {x : s.Kind} (h : s.read? v = some x) :
    (section? v s.group).isSome := by
  obtain ⟨found, hfound, -⟩ := Option.bind_eq_some_iff.1 h
  exact Option.isSome_of_eq_some hfound

/-- To read a setting from the layers put together is to read what its own layers give it. -/
theorem read?_overlayAll (s : Setting) {environment : Environment}
    (h : NamesSettings environment.entries) {v : Value}
    (hv : (section? (overlayAll v environment) s.group).isSome) :
    s.read? (overlayAll v environment) = s.setTo? (s.layered? v environment) := by
  rw [s.read?_eq_setTo? hv, s.found?_overlayAll h]

/-! ## 3. Secrets and their own variables -/

/-- Whether a setting is a secret. -/
def isSecret : Setting → Bool
  | apiKey | redisUrl => true
  | _ => false

/-- What a setting falls back to when it is not set: a secret has a variable of its own. -/
def fallback? (s : Setting) (environment : Environment) : Option String :=
  match s with
  | apiKey => nonBlank? environment "OPENAI_API_KEY"
  | redisUrl => nonBlank? environment "REDIS_URL"
  | _ => none

end Setting

namespace Settings

/-- The text of a value unless it is blank. -/
def secretText? (v? : Option Value) : Option String :=
  (v?.bind asText?).filter (!Text.isBlankText ·)

/-- A secret is the text of its value, unless that is blank or missing. -/
theorem asSecret?_eq_some {v : Value} {x : Option String} (h : asSecret? v = some x) :
    x = secretText? (some v) := by
  have hmap : ∀ {text? : Option String},
      (text?.map fun s => if Text.isBlankText s then none else some s) = some x →
        x = text?.filter (!Text.isBlankText ·) := by
    rintro (_ | text) hx
    · cases hx
    · rw [← Option.some.inj hx, Option.filter_some]
      cases hblank : Text.isBlankText text <;> simp [hblank]
  cases v with
  | gap => exact (Option.some.inj h).symm
  | _ => exact hmap h

theorem secretText?_of_setTo? {s : Setting} (hs : s.isSecret = true) {v? : Option Value}
    {x : s.Kind} (h : s.setTo? v? = some x) : s.text? x = secretText? v? := by
  cases s with
  | apiKey | redisUrl =>
    cases v? with
    | none => exact (Option.some.inj h).symm
    | some v => exact asSecret?_eq_some h
  | _ => cases hs

/-- The variables of the two secrets change no other setting. -/
theorem get_withSecrets {s : Setting} (h : s.isSecret = false) (S : Settings)
    (environment : Environment) : s.get (S.withSecrets environment) = s.get S := by
  cases s <;> first | rfl | cases h

/-! ## 4. Loads -/

instance (x : Except LoadError Settings) (S : Settings) : Decidable (x = .ok S) :=
  match x with
  | .error _ => .isFalse fun h => nomatch h
  | .ok S' => decidable_of_iff (S' = S) ⟨congrArg _, Except.ok.inj⟩

/-- Settings are loaded if there is a document and all layers put together can be read. -/
theorem loadFrom_eq_ok_iff {t : FileTree} {current : Place} {environment : Environment}
    {path : Option String} {S : Settings} :
    loadFrom t current environment path = .ok S
      ↔ ∃ document L, loadDocument t current path = .ok document
        ∧ ofValue? (overlayAll (ofDocument document) environment) = some L
        ∧ L.withSecrets environment = S := by
  rw [loadFrom]
  cases loadDocument t current path with
  | error e => simp
  | ok document =>
    simp only [ofLayers?, Except.ok.injEq, exists_and_left, exists_eq_left']
    cases ofValue? (overlayAll (ofDocument document) environment) <;> simp

/-- How settings come from a file and the environment. -/
structure Resolved (v : Value) (environment : Environment) (S : Settings) : Prop where
  /-- A setting that is no secret is what its own layers say. -/
  layered : ∀ s : Setting, s.isSecret = false → s.setTo? (s.layered? v environment) = some (s.get S)
  apiKey : S.model.apiKey
    = (secretText? (Setting.apiKey.layered? v environment)).or
        (nonBlank? environment "OPENAI_API_KEY")
  redisUrl : S.cache.redisUrl
    = (secretText? (Setting.redisUrl.layered? v environment)).or (nonBlank? environment "REDIS_URL")

/-- Two loads say the same of a setting. -/
structure AgreeOn (s : Setting) (v : Value) (environment : Environment) (v' : Value)
    (environment' : Environment) : Prop where
  own : environment.get? s.variableName = environment'.get? s.variableName
  entry : s.found? v = s.found? v'
  displaced : s.isDisplaced v environment = s.isDisplaced v' environment'
  fallback : s.fallback? environment = s.fallback? environment'

variable {v v' : Value} {environment environment' : Environment} {S S' : Settings}

/-- Where two loads agree on a setting the layers have the same value for it. -/
theorem AgreeOn.layered?_eq {s : Setting} (h : AgreeOn s v environment v' environment') :
    s.layered? v environment = s.layered? v' environment' := by
  rw [Setting.layered?, Setting.layered?, h.own, h.entry, h.displaced]

/-- What two loads agree on they set to the same. -/
theorem Resolved.get_eq (h : Resolved v environment S) (h' : Resolved v' environment' S')
    {s : Setting} (hagree : AgreeOn s v environment v' environment') : s.get S = s.get S' := by
  by_cases hs : s.isSecret = false
  · have hset := h.layered s hs
    rw [hagree.layered?_eq, h'.layered s hs] at hset
    exact (Option.some.inj hset).symm
  · cases s with
    | apiKey =>
      have hfallback : nonBlank? environment "OPENAI_API_KEY"
          = nonBlank? environment' "OPENAI_API_KEY" := hagree.fallback
      show S.model.apiKey = S'.model.apiKey
      rw [h.apiKey, h'.apiKey, hagree.layered?_eq, hfallback]
    | redisUrl =>
      have hfallback : nonBlank? environment "REDIS_URL" = nonBlank? environment' "REDIS_URL" :=
        hagree.fallback
      show S.cache.redisUrl = S'.cache.redisUrl
      rw [h.redisUrl, h'.redisUrl, hagree.layered?_eq, hfallback]
    | _ => exact absurd rfl hs

/-- Settings that are loaded are resolved. -/
theorem resolved_of_load {t : FileTree} {current : Place} {path : Option String}
    {document : List (String × Value)} (hdocument : loadDocument t current path = .ok document)
    (hnames : NamesSettings environment.entries)
    (hload : loadFrom t current environment path = .ok S) :
    Resolved (ofDocument document) environment S := by
  obtain ⟨document', L, hdocument', hL, rfl⟩ := loadFrom_eq_ok_iff.1 hload
  obtain rfl := Except.ok.inj (hdocument.symm.trans hdocument')
  have hset : ∀ s : Setting,
      s.setTo? (s.layered? (ofDocument document) environment) = some (s.get L) := by
    intro s
    have hread := ofValue?_eq_some_iff.1 hL s
    rw [← s.read?_overlayAll hnames (Setting.isSome_section?_of_read? hread), hread]
  have hkey : L.model.apiKey = secretText? (Setting.apiKey.layered? _ environment) :=
    secretText?_of_setTo? (s := .apiKey) rfl (hset .apiKey)
  have hurl : L.cache.redisUrl = secretText? (Setting.redisUrl.layered? _ environment) :=
    secretText?_of_setTo? (s := .redisUrl) rfl (hset .redisUrl)
  exact ⟨fun s hs => get_withSecrets hs L environment ▸ hset s, congrArg (Option.or · _) hkey,
    congrArg (Option.or · _) hurl⟩

/-! ## 5. The statement -/

/-- Each setting is what its own variable says, else what its own entry says, else its default; a
secret that is blank or unset is what its own variable outside the layers says. Two loads that say
the same of a setting agree on it, whatever they say of the others. -/
theorem settings_resolved {t : FileTree} {current : Place} {path : Option String}
    {document : List (String × Value)} (hdocument : loadDocument t current path = .ok document)
    (hnames : NamesSettings environment.entries)
    (hload : loadFrom t current environment path = .ok S) :
    Resolved (ofDocument document) environment S
      ∧ ∀ {t' : FileTree} {current' : Place} {path' : Option String}
          {document' : List (String × Value)} {environment' : Environment} {S' : Settings},
        loadDocument t' current' path' = .ok document' → NamesSettings environment'.entries →
        loadFrom t' current' environment' path' = .ok S' →
        ∀ {s : Setting},
          AgreeOn s (ofDocument document) environment (ofDocument document') environment' →
            s.get S = s.get S' := by
  have hresolved := resolved_of_load hdocument hnames hload
  refine ⟨hresolved, ?_⟩
  intro t' current' path' document' environment' S' hdocument' hnames' hload' s hagree
  exact hresolved.get_eq (resolved_of_load hdocument' hnames' hload') hagree

/-- A tree with one file. -/
def fileOf (text : String) : FileTree := FileTree.empty.put ["c.toml"] (.file (.text text))

/-- A host of its own, a port and a key, and else the defaults. -/
def keyedSettings (port : Nat) (key : String) : Settings :=
  { Settings.default with
    server := { Settings.default.server with host := "1.2.3.4", port }
    model := { Settings.default.model with apiKey := some key } }

/-- A file that sets the host and leaves the key of the model blank, with a variable for the port
and one for the key outside the layers, is read beside the same file with another port and key. -/
theorem settings_resolved_keyed :
    let t := fileOf "[server]\nhost = \"1.2.3.4\"\nport = 9100\n[model]\napi_key = \" \"\n"
    let environment : Environment :=
      .ofList [("STORYWEAVE__SERVER__PORT", "9200"), ("OPENAI_API_KEY", "sk-1")]
    let environment' : Environment :=
      .ofList [("STORYWEAVE__SERVER__PORT", "9300"), ("OPENAI_API_KEY", "sk-2")]
    ∃ document, loadDocument t [] (some "c.toml") = .ok document
      ∧ NamesSettings environment.entries ∧ NamesSettings environment'.entries
      ∧ loadFrom t [] environment (some "c.toml") = .ok (keyedSettings 9200 "sk-1")
      ∧ loadFrom t [] environment' (some "c.toml") = .ok (keyedSettings 9300 "sk-2")
      ∧ Resolved (ofDocument document) environment (keyedSettings 9200 "sk-1")
      ∧ Setting.host.get (keyedSettings 9200 "sk-1")
        = Setting.host.get (keyedSettings 9300 "sk-2") := by
  intro t environment environment'
  have hload : loadFrom t [] environment (some "c.toml") = .ok (keyedSettings 9200 "sk-1") := by
    decide +kernel
  have hload' : loadFrom t [] environment' (some "c.toml") = .ok (keyedSettings 9300 "sk-2") := by
    decide +kernel
  have hnames : NamesSettings environment.entries := by decide +kernel
  have hnames' : NamesSettings environment'.entries := by decide +kernel
  obtain ⟨document, -, hdocument, -⟩ := loadFrom_eq_ok_iff.1 hload
  obtain ⟨hresolved, hagree⟩ := settings_resolved hdocument hnames hload
  have hover : Setting.isOverlaid environment "server"
      = Setting.isOverlaid environment' "server" := by decide +kernel
  have hhost : AgreeOn .host (ofDocument document) environment (ofDocument document)
      environment' := by
    refine ⟨by decide +kernel, rfl, ?_, rfl⟩
    simp only [Setting.isDisplaced, Setting.group, hover]
  exact ⟨document, hdocument, hnames, hnames', hload, hload', hresolved,
    hagree hdocument hnames' hload' hhost⟩

/-- A section that is an array is lost with the first variable of the section: the host that the
file gives is the default again as soon as the port is set. -/
theorem setting_lost_with_listed_section :
    let t := fileOf "server = [\"1.2.3.4\"]\n"
    let environment : Environment := .ofList [("STORYWEAVE__SERVER__PORT", "9000")]
    NamesSettings (Dictionary.empty : Environment).entries ∧ NamesSettings environment.entries
      ∧ environment.get? Setting.host.variableName = none
      ∧ ∃ S S', loadFrom t [] .empty (some "c.toml") = .ok S
        ∧ loadFrom t [] environment (some "c.toml") = .ok S'
        ∧ Setting.host.get S = "1.2.3.4" ∧ Setting.host.get S' = "0.0.0.0" := by
  refine ⟨by decide +kernel, by decide +kernel, by decide +kernel, ?_⟩
  refine ⟨{ Settings.default with server := { Settings.default.server with host := "1.2.3.4" } },
    { Settings.default with server := { Settings.default.server with port := 9000 } }, ?_⟩
  exact ⟨by decide +kernel, by decide +kernel, rfl, rfl⟩

end Settings

end Widgetry
