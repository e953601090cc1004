import Widgetry.Proofs.Decimal.Spelling
import Widgetry.Proofs.Settings.Resolution

/-!
What becomes of a text that a variable gives to a setting of text. Main statement:
`text_setting_taken`. The settings load, and the setting is the text as it stands, unless the text
can be read as a truth value, as an integer of 64 bits or as a real number: the type of the value is
guessed before the setting is known, and what was read is printed again in a spelling of its own
(`Taken`). No such reading is possible with a character in the text that has no place in a number.
A key of digits is not safe from it (`number_key_respelled`).

That the settings load is shown setting by setting. Every other setting has no variable, so it is
read from the file as if there were none, or falls back to its default.
-/

namespace Widgetry

open Decimal (isNumeralChar)
open Toml (Value)
open Settings (Environment overlayAll variableValue settingName? listSetting ofDocument section?
  asText? asSecret? fileOf)

namespace Settings

/-! ## 1. What a text is read as -/

/-- The words for truth values. -/
def truthWords : List String := ["true", "false"]

/-- A text with lower-case letters for the upper-case letters of ASCII. -/
def lowered (text : String) : String := String.ofList (Text.lowerAscii text.toList)

/-- What a setting of text is set to by a text of the environment. -/
inductive Taken (text : String) : String → Prop where
  | word (hword : lowered text ∈ truthWords) : Taken text (lowered text)
  | integer {i : Int} (hword : lowered text ∉ truthWords)
      (hinteger : Decimal.integer? text.toList = some i)
      (hfits : Decimal.fitsSigned 64 i = true) : Taken text (toString i)
  | real {x : Decimal.Binary} (hword : lowered text ∉ truthWords)
      (hinteger : ∀ i, Decimal.integer? text.toList = some i → Decimal.fitsSigned 64 i = false)
      (hreal : Decimal.real? Decimal.double text.toList = some x) :
      Taken text (Decimal.plain.text Decimal.double x)
  | verbatim (hword : lowered text ∉ truthWords)
      (hinteger : ∀ i, Decimal.integer? text.toList = some i → Decimal.fitsSigned 64 i = false)
      (hreal : Decimal.real? Decimal.double text.toList = none) : Taken text text

/-- The value of a variable that holds no list has a text, and that is what is taken. -/
theorem exists_taken {setting : List Char} (hsetting : setting ≠ listSetting) (text : String) :
    ∃ taken, asText? (variableValue setting text) = some taken ∧ Taken text taken := by
  -- the guesses are followed in the order in which they are made; each knows that those before
  -- failed
  simp only [variableValue]
  split
  · rename_i hword
    have hword : lowered text = "true" := beq_iff_eq.1 hword
    exact ⟨_, rfl, hword ▸ Taken.word (by rw [hword]; decide)⟩
  · rename_i htrue
    split
    · rename_i hword
      have hword : lowered text = "false" := beq_iff_eq.1 hword
      exact ⟨_, rfl, hword ▸ Taken.word (by rw [hword]; decide)⟩
    · rename_i hfalse
      have hword : lowered text ∉ truthWords := by
        intro h
        rcases List.mem_pair.1 h with h | h
        · exact htrue (beq_iff_eq.2 h)
        · exact hfalse (beq_iff_eq.2 h)
      split
      · rename_i i hi
        obtain ⟨hinteger, hfits⟩ := Option.filter_eq_some_iff.1 hi
        exact ⟨_, rfl, .integer hword hinteger hfits⟩
      · rename_i hnone
        have hinteger : ∀ i, Decimal.integer? text.toList = some i →
            Decimal.fitsSigned 64 i = false := fun i hi => by
          rw [hi, Option.filter_some] at hnone
          simpa using hnone
        split
        · rename_i x hx
          exact ⟨_, rfl, .real hword hinteger hx⟩
        · rename_i hreal
          exact ⟨_, rfl, .verbatim hword hinteger hreal⟩

namespace Taken

variable {text taken : String}

/-- No blank text is taken for one that is not blank. -/
theorem isBlankText_eq_false (h : Taken text taken) (hblank : Text.isBlankText text = false) :
    Text.isBlankText taken = false := by
  cases h with
  | word hword => rcases List.mem_pair.1 hword with h | h <;> rw [h] <;> decide
  | integer => exact Decimal.isBlankText_toString_int _
  | real => exact Decimal.isBlankText_plain_text _ _
  | verbatim => exact hblank

/-- A text with a character that has no place in a number is taken as it stands. -/
theorem eq_of_not_isNumeralChar (h : Taken text taken)
    (hchar : ∃ c ∈ text.toList, isNumeralChar c = false) : taken = text := by
  obtain ⟨c, hc, hnot⟩ := hchar
  have hother : ¬∀ c ∈ text.toList, isNumeralChar c = true := fun hall =>
    Bool.false_ne_true (hnot.symm.trans (hall c hc))
  cases h with
  | word hword =>
    rcases List.mem_pair.1 hword with h | h <;>
      exact absurd (Decimal.isNumeralChar_of_lowerAscii h (by decide)) hother
  | integer _ hinteger => exact absurd (Decimal.isNumeralChar_of_integer? hinteger) hother
  | real _ _ hreal => exact absurd (Decimal.isNumeralChar_of_real? hreal) hother
  | verbatim => rfl

end Taken

theorem asSecret?_of_asText? {v : Value} {text : String} (h : asText? v = some text)
    (hblank : Text.isBlankText text = false) : asSecret? v = some (some text) := by
  have hmap : (asText? v).map (fun s => if Text.isBlankText s then none else some s)
      = some (some text) := by
    rw [h, Option.map_some, hblank]
    rfl
  cases v with
  | gap => cases h
  | _ => exact hmap

end Settings

namespace Setting

/-! ## 2. Settings of text -/

/-- Whether a setting is a text. -/
def isText : Setting → Bool
  | host | baseUrl | model | apiKey | redisUrl | cdnBaseUrl | logFilter => true
  | _ => false

theorem dotted_ne_listSetting {s : Setting} (h : s.isText = true) : s.dotted ≠ listSetting := by
  revert h
  cases s <;> decide

theorem exists_setTo?_of_asText? {s : Setting} (hs : s.isText = true) {v : Value} {text : String}
    (h : asText? v = some text) (hblank : Text.isBlankText text = false) :
    ∃ x, s.setTo? (some v) = some x ∧ s.text? x = some text := by
  have hsecret := Settings.asSecret?_of_asText? h hblank
  cases s with
  | host | baseUrl | model | cdnBaseUrl | logFilter => exact ⟨text, h, rfl⟩
  | apiKey | redisUrl => exact ⟨some text, hsecret, rfl⟩
  | _ => cases hs

/-- A secret that is set has no use for the variable of its own. -/
theorem text?_get_withSecrets {s : Setting} {S : Settings} {text : String}
    (h : s.text? (s.get S) = some text) (environment : Environment) :
    s.text? (s.get (S.withSecrets environment)) = some text := by
  cases s with
  | apiKey =>
    have hkey : S.model.apiKey = some text := h
    show S.model.apiKey.or _ = some text
    rw [hkey, Option.some_or]
  | redisUrl =>
    have hurl : S.cache.redisUrl = some text := h
    show S.cache.redisUrl.or _ = some text
    rw [hurl, Option.some_or]
  | _ => exact h

/-- Settings of one variable are one setting. -/
theorem eq_of_variableName_eq {s s' : Setting} (h : s.variableName = s'.variableName) : s = s' := by
  have hdotted : s.dotted = s'.dotted := by
    have hname := s.settingName?_variableName
    rw [h, s'.settingName?_variableName] at hname
    exact (Option.some.inj hname).symm
  have hinjective : ∀ a ∈ all, ∀ b ∈ all, a.dotted = b.dotted → a = b := by decide +kernel
  exact hinjective s s.mem_all s' s'.mem_all hdotted

end Setting

namespace Settings

/-! ## 3. Loading with one variable -/

/-- The one variable that names a setting is that of the given setting, and it holds the given
text. -/
structure OnlySets (s : Setting) (text : String) (environment : Environment) : Prop where
  own : environment.get? s.variableName = some text
  only : ∀ e ∈ environment.entries, settingName? e.1 ≠ none → e.1 = s.variableName

variable {s : Setting} {text : String} {environment : Environment}

theorem OnlySets.namesSettings (h : OnlySets s text environment) :
    NamesSettings environment.entries := fun e he hname => ⟨s, h.only e he hname⟩

theorem OnlySets.get?_of_ne (h : OnlySets s text environment) {other : Setting} (hne : other ≠ s) :
    environment.get? other.variableName = none := by
  rw [Dictionary.get?, Option.map_eq_none_iff, List.find?_eq_none]
  intro e he hname
  have hother : e.1 = other.variableName := beq_iff_eq.1 hname
  have hnames : settingName? e.1 ≠ none := by
    rw [hother, other.settingName?_variableName]
    exact Option.some_ne_none _
  exact hne (Setting.eq_of_variableName_eq (hother.symm.trans (h.only e he hnames)))

/-- A setting that can be read without variables is read with one variable too, if that one has a
text for it. -/
theorem OnlySets.isSome_read? (h : OnlySets s text environment) (hs : s.isText = true)
    (hblank : Text.isBlankText text = false) {v : Value} {other : Setting}
    (hv : (other.read? v).isSome) : (other.read? (overlayAll v environment)).isSome := by
  obtain ⟨x, hx⟩ := Option.isSome_iff_exists.1 hv
  have hsection := Setting.isSome_section?_of_read? hx
  rw [other.read?_overlayAll h.namesSettings
    (other.isSome_section?_overlayAll h.namesSettings hsection)]
  by_cases hother : other = s
  · subst hother
    obtain ⟨taken, htext, htaken⟩ := exists_taken (Setting.dotted_ne_listSetting hs) text
    obtain ⟨x, hx, -⟩ :=
      Setting.exists_setTo?_of_asText? hs htext (htaken.isBlankText_eq_false hblank)
    rw [Setting.layered?, h.own, Option.map_some, Option.some_or, hx]
    rfl
  · rw [Setting.layered?, h.get?_of_ne hother, Option.map_none, Option.none_or]
    split
    · rfl
    · rw [← other.read?_eq_setTo? hsection, hx]
      rfl

/-- A setting of text that only its variable sets is what its text is taken for. The file has to be
one that can be loaded by itself. -/
theorem text_setting_taken (hs : s.isText = true) (hblank : Text.isBlankText text = false)
    (henvironment : OnlySets s text environment) {t : FileTree} {current : Place}
    {path : Option String} {S₀ : Settings} (hfile : loadFrom t current .empty path = .ok S₀) :
    ∃ S taken, loadFrom t current environment path = .ok S ∧ s.text? (s.get S) = some taken
      ∧ Taken text taken
      ∧ ((∃ c ∈ text.toList, isNumeralChar c = false) → taken = text) := by
  obtain ⟨document, L₀, hdocument, hL₀, -⟩ := loadFrom_eq_ok_iff.1 hfile
  have hread := ofValue?_eq_some_iff.1 hL₀
  obtain ⟨L, hL⟩ := exists_ofValue?_eq_some fun other =>
    henvironment.isSome_read? hs hblank (Option.isSome_of_eq_some (hread other))
  obtain ⟨taken, htext, htaken⟩ := exists_taken (Setting.dotted_ne_listSetting hs) text
  have hget : s.text? (s.get L) = some taken := by
    obtain ⟨x, hx, hxtext⟩ :=
      Setting.exists_setTo?_of_asText? hs htext (htaken.isBlankText_eq_false hblank)
    have hset := ofValue?_eq_some_iff.1 hL s
    rw [s.read?_overlayAll henvironment.namesSettings (Setting.isSome_section?_of_read? hset),
      Setting.layered?, henvironment.own, Option.map_some, Option.some_or, hx] at hset
    rw [← Option.some.inj hset, hxtext]
  exact ⟨L.withSecrets environment, taken,
    loadFrom_eq_ok_iff.2 ⟨document, L, hdocument, hL, rfl⟩,
    Setting.text?_get_withSecrets hget environment, htaken, htaken.eq_of_not_isNumeralChar⟩

/-- The address of a store, which has a colon, is taken as it stands. -/
theorem text_setting_taken_address :
    let t := fileOf "[cache]\nbackend = \"redis\"\n"
    let environment : Environment :=
      .ofList [("STORYWEAVE__CACHE__REDIS_URL", "redis://cache:6379")]
    let S₀ : Settings :=
      { Settings.default with cache := { Settings.default.cache with backend := .redis } }
    Setting.redisUrl.isText = true ∧ Text.isBlankText "redis://cache:6379" = false
      ∧ OnlySets .redisUrl "redis://cache:6379" environment
      ∧ loadFrom t [] .empty (some "c.toml") = .ok S₀
      ∧ ∃ S, loadFrom t [] environment (some "c.toml") = .ok S
        ∧ S.cache.redisUrl = some "redis://cache:6379" := by
  intro t environment S₀
  have hblank : Text.isBlankText "redis://cache:6379" = false := by decide
  have hown : environment.get? Setting.redisUrl.variableName = some "redis://cache:6379" := by
    decide +kernel
  have honly : ∀ e ∈ environment.entries, settingName? e.1 ≠ none →
      e.1 = Setting.redisUrl.variableName := by decide +kernel
  have hfile : loadFrom t [] .empty (some "c.toml") = .ok S₀ := by decide +kernel
  obtain ⟨S, taken, hload, htext, -, hverbatim⟩ :=
    text_setting_taken rfl hblank ⟨hown, honly⟩ hfile
  have htaken : taken = "redis://cache:6379" := hverbatim ⟨':', by decide, by decide⟩
  exact ⟨rfl, hblank, ⟨hown, honly⟩, hfile, S, hload, htext.trans (congrArg some htaken)⟩

/-- A key of digits is read as an integer and loses the zeros at its front; in the variable of its
own, outside the layers, it keeps them. -/
theorem number_key_respelled :
    let t := fileOf ""
    let environment : Environment := .ofList [("STORYWEAVE__MODEL__API_KEY", "0042")]
    let environment' : Environment := .ofList [("OPENAI_API_KEY", "0042")]
    let keyed (key : String) : Settings :=
      { Settings.default with model := { Settings.default.model with apiKey := some key } }
    Setting.apiKey.isText = true ∧ Text.isBlankText "0042" = false
      ∧ OnlySets .apiKey "0042" environment
      ∧ loadFrom t [] environment (some "c.toml") = .ok (keyed "42")
      ∧ loadFrom t [] environment' (some "c.toml") = .ok (keyed "0042") := by
  exact ⟨rfl, by decide, ⟨by decide +kernel, by decide +kernel⟩, by decide +kernel,
    by decide +kernel⟩

end Settings

end Widgetry
