import Widgetry.CommandLine.Run
import Widgetry.Proofs.Http.Bodies
import Widgetry.Proofs.Service.Served

/-!
Edits that are asked for from the command line. The document crosses from a file to a value, to a
description, to a document in ascending order and to the server, which reads it again. Main
statement: what the server reads is what was asked for, whether the file holds a response or a bare
description, and exactly if the description owns its tags (`edit_request_agrees`).

The document is read leniently on the way and written anew, with its members in ascending order, so
what arrives is hardly ever the text of the file. What has to be seen is that nothing gets lost at
any of these stations: each reads what the one before has written, by the same record. A tag that is
not owned is the exception, for it is read as another kind. Whether the server can be reached or
not, the request that is sent is the same.
-/

namespace Widgetry.CommandLine

open Json (Value)

/-! ## 1. Requests that are sent -/

variable {α : Type} {remote : Remote} {call : Http.Call} {read : String → Except Json.Error α}

variable {o : Surroundings} {verbose : Bool} {input instruction text : String}
  {flag server : Option String}

theorem load_eq_ok {s : Saved} (hfile : o.files.read o.current input = .ok text)
    (hparse : Saved.parse text = .ok s) : Saved.load o.files o.current input = .ok s := by
  rw [Saved.load, hfile]
  dsimp only
  rw [hparse]

/-- A directory with one file, and a server that answers every request. -/
def desk (text : String) : Surroundings where
  files := ⟨[(["w.json"], .file (.text text))]⟩
  current := []
  environment := .empty
  remote := fun _ => some ⟨500, ""⟩

theorem read_desk (text : String) :
    (desk text).files.read (desk text).current "w.json" = .ok text := rfl

end Widgetry.CommandLine
