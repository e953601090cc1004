import Widgetry.Log.Directive

/-!
Filters of log entries. A filter is a list of directives; of those that speak of an entry the most
specific one decides on it, and an entry that no directive speaks of is dropped.
-/

namespace Widgetry.Log

/-- A filter. -/
abbrev Filter := List Directive

namespace Filter

/-- The filter of a level for everything. -/
def level (l : Level) : Filter := [.ofThreshold (some l)]

/-- The filter that a text spells out with commas between its directives; without a directive it
lets errors through. -/
def parse? (s : String) : Option Filter :=
  let parts := (Text.cut ',' s.toList).filter (!·.isEmpty)
  if parts.isEmpty then some (level .error)
  else parts.mapM fun part => Directive.parse? (String.ofList part)

/-- The directive that decides on an entry: the most specific one that speaks of it, and the last
one of those that are equally specific. -/
def deciding? (e : Event) : Filter → Option Directive
  | [] => none
  | d :: ds =>
    match deciding? e ds with
    | some other => if d.covers e && other.isLessSpecific d then some d else some other
    | none => if d.covers e then some d else none

/-- Whether a filter lets an entry through. -/
def allows (f : Filter) (e : Event) : Bool :=
  match f.deciding? e with
  | some d => lets d.threshold e.level
  | none => false

end Filter

end Widgetry.Log
