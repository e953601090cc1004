import Widgetry.Http.Host

/-!
Addresses. An address is read leniently: white space around it and line breaks in it are dropped,
the scheme and the host are put in their normal forms, dot segments are resolved, and characters
that may not stand in a part are percent-encoded. The special schemes always have a path, and a
backslash is a slash in them.

## Sections

1. Schemes.
2. Paths.
3. Authorities.
4. Addresses.
5. Texts.
-/

namespace Widgetry.Http

/-- What stands before the path of an address: a name and a password, a host, and a port unless it
is the scheme's own. -/
structure Authority where
  name : String
  password : Option String
  host : Option Host
  port : Option Nat
  deriving Repr, DecidableEq

/-- An address. Without an authority the path may have no slash at its start. -/
structure Url where
  scheme : String
  authority : Option Authority
  path : String
  query : Option String
  fragment : Option String
  deriving Repr, DecidableEq

namespace Url

/-! ## 1. Schemes -/

/-- Drops controls and spaces at both ends, and tabs and line breaks anywhere. -/
def strip (cs : List Char) : List Char :=
  let low (c : Char) : Bool := c.toNat ≤ 0x20
  let cs := ((cs.dropWhile low).reverse.dropWhile low).reverse
  cs.filter fun c => c != '\t' && c != '\n' && c != '\r'

/-- The scheme of an address, and what follows its colon. -/
def splitScheme (cs : List Char) : Option (String × List Char) :=
  let scheme := cs.takeWhile (· != ':')
  let inner (c : Char) : Bool := c.isAlphanum || c == '+' || c == '-' || c == '.'
  match scheme, cs.dropWhile (· != ':') with
  | s :: _, ':' :: rest =>
    if s.isAlpha && scheme.all inner then some (String.ofList (Text.lowerAscii scheme), rest)
    else none
  | _, _ => none

/-- The port that a scheme stands for. These schemes are special. -/
def defaultPort (scheme : String) : Option Nat :=
  if scheme == "http" || scheme == "ws" then some 80
  else if scheme == "https" || scheme == "wss" then some 443
  else if scheme == "ftp" then some 21
  else none

/-- The scheme of files, which is special without a port. -/
def isFile (scheme : String) : Bool := scheme == "file"

/-- Whether a scheme is special. -/
def isSpecial (scheme : String) : Bool := isFile scheme || (defaultPort scheme).isSome

/-- Whether a character separates the segments of a path in a special scheme. -/
def isSlash (c : Char) : Bool := c == '/' || c == '\\'

/-! ## 2. Paths -/

/-- A text of lower-case letters with its encoded dots decoded. -/
def withDots : List Char → List Char
  | '%' :: '2' :: 'e' :: cs => '.' :: withDots cs
  | c :: cs => c :: withDots cs
  | [] => []

/-- How many dots a segment is, which means the directory itself or the one above it; none if it is
anything else. -/
def dotCount (segment : String) : Nat :=
  match withDots (Text.lowerAscii segment.toList) with
  | ['.'] => 1
  | ['.', '.'] => 2
  | _ => 0

/-- The letter of a drive, if a segment names one. -/
def driveLetter? (segment : List Char) : Option Char :=
  match segment with
  | [c, sign] => if c.isAlpha && (sign == ':' || sign == '|') then some c else none
  | _ => none

/-- Whether a segment names a drive. -/
def isDrive (segment : String) : Bool := (driveLetter? segment.toList).isSome

/-- The name of a drive with its usual sign, and every other segment as it is. -/
def driveName (segment : String) : String :=
  match driveLetter? segment.toList with
  | some c => String.ofList [c, ':']
  | none => segment

/-- The segments, last first, without the last one; one does not go up from a drive. -/
def goUp : List String → List String
  | [] => []
  | s :: done => if isDrive s then s :: done else done

/-- The segments of a path with dot segments resolved; `done` holds the segments before, last first.
The first segment of a file's path may name a drive. -/
def resolve (isFile : Bool) (done : List String) : List String → List String
  | [] => done.reverse
  | s :: rest =>
    match dotCount s with
    | 0 => resolve isFile ((if isFile && done.isEmpty then driveName s else s) :: done) rest
    | 1 => resolve isFile (if rest.isEmpty then "" :: done else done) rest
    | _ => resolve isFile (if rest.isEmpty then "" :: goUp done else goUp done) rest

/-- The resolved segments of a path's text; a slash at its start does not count. -/
def segments (scheme : String) (cs : List Char) : List String :=
  let cs := if isSpecial scheme then cs.map fun c => if c == '\\' then '/' else c else cs
  let cs := match cs with
    | '/' :: cs => cs
    | cs => cs
  resolve (isFile scheme) [] ((Text.cut '/' cs).map (Percent.encode Percent.pathSet))

/-- The path of segments. -/
def joined (segments : List String) : String := "/" ++ "/".intercalate segments

/-- The path of a file: empty segments at its start do not count. -/
def joinedFile (segments : List String) : String :=
  "/" ++ String.ofList ((joined segments).toList.dropWhile (· == '/'))

/-- Path, query and fragment of the end of an address. -/
def splitEnd (cs : List Char) : List Char × Option (List Char) × Option (List Char) :=
  let fragment := match cs.dropWhile (· != '#') with
    | '#' :: f => some f
    | _ => none
  let cs := cs.takeWhile (· != '#')
  let query := match cs.dropWhile (· != '?') with
    | '?' :: q => some q
    | _ => none
  (cs.takeWhile (· != '?'), query, fragment)

/-! ## 3. Authorities -/

/-- Host and port of an authority: a colon outside of brackets stands between them. -/
def splitPort (inBrackets : Bool) : List Char → List Char × Option (List Char)
  | [] => ([], none)
  | c :: cs =>
    if c == ':' && !inBrackets then ([], some cs)
    else
      let (host, port) := splitPort (c == '[' || (inBrackets && c != ']')) cs
      (c :: host, port)

/-- A port, and what follows its digits: nothing, or a path that a backslash starts. -/
def port? (cs : List Char) : Option (Option Nat × List Char) :=
  let digits := cs.takeWhile Char.isDigit
  let behind := cs.dropWhile Char.isDigit
  if behind.isEmpty || behind.head? == some '\\' then
    if digits.isEmpty then some (none, behind)
    else ((Decimal.natural? digits).filter (· < 65536)).map fun n => (some n, behind)
  else none

/-- Name and password in front of an authority's last sign for them. -/
def user (cs : List Char) : String × Option String :=
  let encode := Percent.encode Percent.userSet
  match cs.dropWhile (· != ':') with
  | ':' :: c :: password => (encode (cs.takeWhile (· != ':')), some (encode (c :: password)))
  | _ => (encode (cs.takeWhile (· != ':')), none)

/-- What stands in front of the last sign for a name, and what stands behind it. -/
def splitUser (cs : List Char) : Option (List Char) × List Char :=
  let behind := (cs.reverse.takeWhile (· != '@')).reverse
  if behind.length == cs.length then (none, cs)
  else (some ((cs.take (cs.length - behind.length)).dropLast), behind)

/-- Reads an authority; the answer holds what follows the digits of the port. A name needs a host,
and so does a port; the sign for a name needs one unless it ends the address. -/
def authority? (scheme : String) (isEnd : Bool) (cs : List Char) :
    Option (Authority × List Char) := do
  let (before, behind) := splitUser cs
  if before == some [] && behind.isEmpty && !isEnd then none
  else
    let (name, password) := user (before.getD [])
    let (hostText, portText) := splitPort false behind
    let host ← if isSpecial scheme then (Host.parse? hostText).map some
      else Host.parsePlain? hostText
    let (port, rest) ← match portText with
      | some cs => port? cs
      | none => some (none, [])
    if host.isNone && (portText.isSome || name != "" || password.isSome) then none
    else
      some (⟨name, password, host, if port == defaultPort scheme then none else port⟩, rest)

/-- The authority and the path of a file's address behind the colon of its scheme. A drive in the
place of the host belongs to the path, and no host stands in front of a drive. -/
def filePath? (cs : List Char) : Option (Authority × String) :=
  let none' : Authority := ⟨"", none, none, none⟩
  match cs with
  | a :: b :: rest =>
    if isSlash a && isSlash b then
      let hostText := rest.takeWhile (!isSlash ·)
      if (driveLetter? hostText).isSome then some (none', joinedFile (segments "file" rest))
      else
        let segments := segments "file" (rest.dropWhile (!isSlash ·))
        let path := joinedFile segments
        if hostText.isEmpty then some (none', path)
        else
          match Host.parse? hostText with
          | none => none
          | some host =>
            if host == .name "localhost" || segments.head?.any isDrive then some (none', path)
            else some ({ none' with host := some host }, path)
    else some (none', joinedFile (segments "file" cs))
  | cs => some (none', joinedFile (segments "file" cs))

/-! ## 4. Addresses -/

/-- The authority and the path of an address behind the colon of its scheme; `isEnd` says that no
query and no fragment follow. -/
def authorityAndPath? (scheme : String) (isEnd : Bool) (cs : List Char) :
    Option (Option Authority × String) :=
  let ended (c : Char) : Bool := c == '/' || (isSpecial scheme && c == '\\')
  let withAuthority (cs : List Char) : Option (Option Authority × String) :=
    let tail := cs.dropWhile (!ended ·)
    (authority? scheme (isEnd && tail.isEmpty) (cs.takeWhile (!ended ·))).map fun (a, rest) =>
      let path := rest ++ tail
      (some a, if path.isEmpty && !isSpecial scheme then "" else joined (segments scheme path))
  if isFile scheme then (filePath? cs).map fun (a, path) => (some a, path)
  else if isSpecial scheme then withAuthority (cs.dropWhile isSlash)
  else match cs with
    | '/' :: '/' :: cs => withAuthority cs
    | '/' :: cs => some (none, joined (segments scheme cs))
    | cs => some (none, Percent.encode [] cs)

/-- Reads an address. -/
def parse (s : String) : Option Url := do
  let (scheme, rest) ← splitScheme (strip s.toList)
  let (rest, query, fragment) := splitEnd rest
  let (authority, path) ← authorityAndPath? scheme (query.isNone && fragment.isNone) rest
  let querySet := if isSpecial scheme then Percent.specialQuerySet else Percent.querySet
  return ⟨scheme, authority, path, query.map (Percent.encode querySet),
    fragment.map (Percent.encode Percent.fragmentSet)⟩

/-! ## 5. Texts -/

/-- What is asked for at the host: path and query. -/
def target (u : Url) : String :=
  u.path ++ match u.query with
    | some q => "?" ++ q
    | none => ""

end Url

namespace Authority

/-- Name and password with the sign behind them. -/
def userText (a : Authority) : String :=
  if a.name == "" && a.password.isNone then ""
  else a.name ++ (a.password.map (":" ++ ·)).getD "" ++ "@"

/-- The host of an authority as it is written. -/
def hostText (a : Authority) : String := (a.host.map Host.text).getD ""

/-- The text of an authority. -/
def text (a : Authority) : String :=
  a.userText ++ a.hostText ++ (a.port.map fun p => ":" ++ toString p).getD ""

/-- An authority as requests are sent to it: name and password go elsewhere if they can be read. -/
def withoutUser (a : Authority) : Authority :=
  let isReadable (s : String) : Bool := (Percent.decode? s.toList).isSome
  if isReadable a.name && (a.name != "" || a.password.any isReadable) then
    { a with name := "", password := none }
  else a

end Authority

namespace Url

/-- The text of an address. Two slashes at the start of a path would be taken for the start of an
authority, so a dot segment keeps them apart. -/
def text (u : Url) : String :=
  u.scheme ++ ":"
  ++ (match u.authority with
    | some a => "//" ++ a.text
    | none => if Text.startsWith u.path.toList ['/', '/'] then "/." else "")
  ++ u.target
  ++ match u.fragment with
    | some f => "#" ++ f
    | none => ""

/-- The address that requests are sent to. -/
def withoutUser (u : Url) : Url := { u with authority := u.authority.map Authority.withoutUser }

/-- The host of an address. -/
def host? (u : Url) : Option Host := u.authority.bind (·.host)

/-- The greatest length of an address that requests are sent to, in bytes. -/
def longest : Nat := 65534

/-- Whether a character stands in no host that requests are sent to. -/
def isUnsendable (c : Char) : Bool := ['"', '`', '{', '}'].contains c

/-- Whether requests can be sent to an address. -/
def isSendable (u : Url) : Bool :=
  (u.scheme == "http" || u.scheme == "https")
  && u.host?.any (fun h => !h.text.toList.any isUnsendable)
  && u.text.utf8ByteSize ≤ longest

end Url

/-- Whether requests can be sent to the address that a text writes. -/
def canSendTo (s : String) : Bool := (Url.parse s).any (·.withoutUser.isSendable)

end Widgetry.Http
