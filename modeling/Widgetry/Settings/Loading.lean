import Widgetry.Files.Tree
import Widgetry.Settings.Dotenv
import Widgetry.Settings.Layers
import Widgetry.Settings.Setting
import Widgetry.Toml.Document

/-!
Loading the settings: a file, on top of it the variables of the environment, and below both the
defaults. Two secrets have a variable of their own that counts when they are not set otherwise.

## Sections

1. Layers and secrets.
2. Files and variables.
-/

namespace Widgetry

open Toml (Value)
open Settings (Environment)

namespace Settings

/-! ## 1. Layers and secrets -/

/-- The value of a variable unless it is blank. -/
def nonBlank? (environment : Environment) (name : String) : Option String :=
  (environment.get? name).filter (!Text.isBlankText ·)

/-- Fills secrets that are not set from the variables of their own. -/
def withSecrets (s : Settings) (environment : Environment) : Settings :=
  { s with
    model := { s.model with apiKey := s.model.apiKey.or (nonBlank? environment "OPENAI_API_KEY") }
    cache := { s.cache with redisUrl := s.cache.redisUrl.or (nonBlank? environment "REDIS_URL") } }

/-- The settings of a document and of the environment. -/
def ofLayers? (document : List (String × Value)) (environment : Environment) : Option Settings :=
  (ofValue? (overlayAll (ofDocument document) environment)).map (·.withSecrets environment)

/-- The document that a text holds; its integers have to fit into 64 bits. -/
def document? (text : String) : Option (List (String × Value)) :=
  (Toml.parse? text).filter Value.entriesFit

/-! ## 2. Files and variables -/

/-- Why there are no settings: the file that was asked for is not there, or something in the layers
cannot be read. -/
inductive LoadError where
  | missingFile (path : String)
  | unreadable
  deriving Repr, DecidableEq

/-- The message of an error, if its text is fixed. -/
def LoadError.message? : LoadError → Option String
  | .missingFile path => some ("config file not found: " ++ path)
  | .unreadable => none

/-- The file that is used unless another one is asked for. -/
def defaultFile : String := "config/storyweave.toml"

/-- The places where the file is looked for that is used unless another one is asked for. -/
def defaultFiles : List String := [defaultFile, defaultFile ++ ".toml"]

/-- The variable that names the file. -/
def fileVariable : String := "STORYWEAVE_CONFIG"

/-- The file with variables. -/
def variablesFile : String := ".env"

/-- The path of the file to read, nothing if there is none. -/
def chosenFile (t : FileTree) (current : Place) (path : Option String) :
    Except LoadError (Option String) :=
  match path with
  | some path => if t.isFile current path then .ok (some path) else .error (.missingFile path)
  | none => .ok (defaultFiles.find? fun path => t.isFile current path)

/-- The document of the file to read, which is empty if there is none. -/
def loadDocument (t : FileTree) (current : Place) (path : Option String) :
    Except LoadError (List (String × Value)) :=
  match chosenFile t current path with
  | .error e => .error e
  | .ok none => .ok []
  | .ok (some path) =>
    match t.read current path with
    | .error _ => .error .unreadable
    | .ok text => match document? text with
      | some document => .ok document
      | none => .error .unreadable

/-- Loads the settings with the file of a path and with the variables of the environment. -/
def loadFrom (t : FileTree) (current : Place) (environment : Environment) (path : Option String) :
    Except LoadError Settings :=
  match loadDocument t current path with
  | .error e => .error e
  | .ok document => match ofLayers? document environment with
    | some s => .ok s
    | none => .error .unreadable

/-- The variables of the environment with those of the file of variables. -/
def loadVariables (t : FileTree) (current : Place) (environment : Environment) : Environment :=
  match t.read current variablesFile with
  | .ok text => Dotenv.load environment text
  | .error _ => environment

/-- Loads the settings as the service does when it starts. -/
def load (t : FileTree) (current : Place) (environment : Environment) : Except LoadError Settings :=
  let environment := loadVariables t current environment
  loadFrom t current environment (environment.get? fileVariable)

end Settings

end Widgetry
