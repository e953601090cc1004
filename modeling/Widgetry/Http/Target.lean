/-!
Targets of requests: a path, or an address with scheme and host before the path, or a host alone.
-/

namespace Widgetry.Http

/-- The characters of a scheme. -/
def isSchemeChar (c : Char) : Bool :=
  c.isAlphanum || c == '+' || c == '-' || c == '.'

/-- What stands behind a scheme and its two slashes. -/
def afterScheme? : List Char → Option (List Char)
  | ':' :: '/' :: '/' :: rest => some rest
  | c :: rest => if isSchemeChar c then afterScheme? rest else none
  | [] => none

/-- Whether a character ends a path: what follows is a query or a fragment. -/
def endsPath (c : Char) : Bool :=
  c == '?' || c == '#'

/-- The path of a target without query and fragment. Behind a host the empty path is the root; a
target that is a host alone has no path. -/
def targetPath (target : String) : String :=
  let path (cs : List Char) := cs.takeWhile fun c => !endsPath c
  match target.toList with
  | '/' :: rest => String.ofList ('/' :: path rest)
  | cs =>
    match afterScheme? cs with
    | none => ""
    | some rest =>
      match path (rest.dropWhile fun c => c != '/' && !endsPath c) with
      | [] => "/"
      | found => String.ofList found

end Widgetry.Http
