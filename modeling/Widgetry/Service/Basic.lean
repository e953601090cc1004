import Widgetry.Cache.Basic
import Widgetry.Component.Embed
import Widgetry.Component.Source
import Widgetry.Model.Error
import Widgetry.Model.Fallback
import Widgetry.Text.Kebab

/-!
The widget service. Generating asks the cache, then the model, repairs repeated ids, renders both
artifacts, and stores the response. A failing model is answered by the fallback widget or, for an
edit, by the document as it was; what a transient failure led to is not stored. A failing cache is
passed over.
-/

namespace Widgetry

/-- The model of a service: how it answers a prompt, and an instruction on a document. -/
structure Model where
  generate : String → Except ModelError Description
  edit : Description → String → Except ModelError Description

/-- What a fresh response is marked with. -/
structure Stamp where
  widgetId : String
  timestamp : String
  deriving Repr, DecidableEq

/-- A call that was made to the model. -/
inductive ModelCall where
  | generate (prompt : String)
  | edit (instruction : String) (currentTitle : String)
  deriving Repr, DecidableEq

/-- What a service is made with: the address of bundles, the time to live of responses in
milliseconds, the stamps that it gives to new responses in turn, and the times of its edits. -/
structure Service where
  cdn : String
  ttl : Nat
  stamp : Nat → Stamp
  editTime : Nat → String

/-- The state of a service: the state of its cache, how many stamps were given out, and how many
edits were made. -/
structure ServiceState (σ : Type) where
  cache : σ
  issued : Nat
  edits : Nat

/-- An answer of the service, and the calls to the model that led to it. -/
structure Answer where
  result : Except Component.Error Response
  calls : List ModelCall

namespace Service

/-- Renders a description under an id, its repeated ids repaired. -/
def render (s : Service) (d : Description) (widgetId timestamp : String) :
    Except Component.Error Response :=
  let d := d.repaired
  match Component.emit d with
  | .error e => .error e
  | .ok source => .ok {
      widgetId
      widget := d
      reactCode := source.code
      embedCode := (Component.Embed.of d.title widgetId s.cdn).code
      timestamp }

/-- The description to render for a prompt, and whether its response may be stored. -/
def outcome : Except ModelError Description → Description × Bool
  | .ok d => (d, true)
  | .error e => (fallbackWidget, !e.isRecoverable)

/-- Generates a widget for a prompt, or serves the stored one. -/
def generate {σ : Type} (s : Service) (cache : Cache σ) (model : Model) (prompt : String)
    (st : ServiceState σ) : Answer × ServiceState σ :=
  let key := cacheKey prompt
  let (found, c) := cache.get key st.cache
  match found with
  | .ok (some response) => (⟨.ok response, []⟩, { st with cache := c })
  | _ =>
    let (d, storable) := outcome (model.generate prompt)
    let stamp := s.stamp st.issued
    let calls := [ModelCall.generate prompt]
    match s.render d stamp.widgetId stamp.timestamp with
    | .error e => (⟨.error e, calls⟩, { st with cache := c, issued := st.issued + 1 })
    | .ok response =>
      let c := if storable then (cache.put key response s.ttl c).2 else c
      (⟨.ok response, calls⟩, { st with cache := c, issued := st.issued + 1 })

/-- Applies an instruction to a document and renders it under its id. Edits are not stored. -/
def edit {σ : Type} (s : Service) (model : Model) (widgetId instruction : String)
    (current : Description) (st : ServiceState σ) : Answer × ServiceState σ :=
  let d := match model.edit current instruction with
    | .ok d => d
    | .error _ => current
  (⟨s.render d widgetId (s.editTime st.edits), [.edit instruction current.title]⟩,
    { st with edits := st.edits + 1 })

/-- The file of a title's component in a bundle. -/
def exportFilename (title : String) : String :=
  let stem := Text.kebab title
  if stem.isEmpty then "widget.jsx" else stem ++ ".jsx"

/-- The bundle of a response. -/
def toExport (r : Response) : Export where
  reactCode := r.reactCode
  embedCode := r.embedCode
  widget := r.widget
  downloadUrl := "/api/download/" ++ r.widgetId
  filename := exportFilename r.widget.title

/-- Prompts that are offered as examples. -/
def examples : List String :=
  ["Make me a quiz for my friends", "A BMI calculator", "A feedback form with branching logic",
   "A countdown timer", "A todo list with categories", "A contact form", "A simple calculator",
   "A survey with multiple choice questions"]

end Service

end Widgetry
