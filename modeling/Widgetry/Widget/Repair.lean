import Widgetry.Widget.Description

/-!
Invariants of a description and their repair. A title and the ids of the elements should not be
blank, and no id should be used twice. Repair gives every later element of an id the smallest suffix
that is free in the document.
-/

namespace Widgetry

/-- A violated invariant of a description. -/
inductive Issue where
  | emptyTitle
  | emptyElementId (index : Nat)
  | duplicateElementId (id : String)
  deriving Repr, DecidableEq

/-- The parts of the message of an issue; the id of an element is one of its own. -/
def Issue.parts : Issue → List String
  | .emptyTitle => ["widget title is empty"]
  | .emptyElementId i => ["element at index ", toString i, " has an empty id"]
  | .duplicateElementId id => ["element id '", id, "' is used more than once"]

/-- The message of an issue. -/
def Issue.message (i : Issue) : String := String.join i.parts

/-- The texts that repeat an earlier one, each once, in the order of their second occurrence. -/
def repeated (seen reported : List String) : List String → List String
  | [] => []
  | x :: xs =>
    if seen.contains x then
      if reported.contains x then repeated seen reported xs
      else x :: repeated seen (x :: reported) xs
    else repeated (x :: seen) reported xs

/-- The places of blank texts. -/
def blankPlaces (start : Nat) : List String → List Nat
  | [] => []
  | x :: xs =>
    if Text.isBlankText x then start :: blankPlaces (start + 1) xs else blankPlaces (start + 1) xs

namespace Description

/-- The ids used more than once, in the order of their second occurrence. -/
def duplicateIds (d : Description) : List String :=
  repeated [] [] d.ids

/-- All violated invariants: the title, blank ids by their place, repeated ids. -/
def issues (d : Description) : List Issue :=
  (if Text.isBlankText d.title then [.emptyTitle] else [])
    ++ (blankPlaces 0 d.ids).map .emptyElementId
    ++ d.duplicateIds.map .duplicateElementId

end Description

/-! ## Repair of ids -/

/-- An id with a numbered suffix. -/
def suffixed (id : String) (n : Nat) : String :=
  id ++ "_" ++ toString n

/-- The first free suffixed form of an id from a number on, with so many numbers to try. -/
def freeSuffix (used : List String) (id : String) (n : Nat) : Nat → String
  | 0 => suffixed id n
  | tries + 1 =>
    if used.contains (suffixed id n) then freeSuffix used id (n + 1) tries else suffixed id n

/-- A renamed element: its former id and its new one. -/
structure Renaming where
  before : String
  after : String
  deriving Repr, DecidableEq

/-- Ids without repetitions: an id that was taken before gets a suffix that neither the ids present
in the document nor the ids taken so far have. -/
def distinctIds (present : List String) (taken : List String) :
    List String → List (String × Option Renaming)
  | [] => []
  | id :: ids =>
    if taken.contains id then
      let fresh := freeSuffix (present ++ taken) id 2 present.length
      (fresh, some ⟨id, fresh⟩) :: distinctIds present (fresh :: taken) ids
    else (id, none) :: distinctIds present (id :: taken) ids

namespace Description

/-- The description with pairwise distinct ids, and the renamings in document order. -/
def repairIds (d : Description) : Description × List Renaming :=
  let fresh := distinctIds d.ids [] d.ids
  ({ d with elements := d.elements.zipWith (fun e f => { e with id := f.1 }) fresh },
   fresh.filterMap Prod.snd)

/-- The description with pairwise distinct ids. -/
def repaired (d : Description) : Description :=
  d.repairIds.1

end Description

end Widgetry
