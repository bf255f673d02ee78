import Custody.Http.Host
import Custody.Http.Url.Path

/-!
# `Custody.Http.Url`: web addresses

An address has a scheme, perhaps a host with a user and a port, a path, and perhaps a query and
a fragment. Reading one forgives a good deal: blanks around it and line breaks inside it, and, for
the schemes that the web knows, backslashes for slashes and any number of slashes before the
host. What may not stand in a part is written with escapes.

A reference, such as a redirect gives, is read against the address that it was found at
(`join`).
-/

set_option autoImplicit false

namespace Custody.Http

/-- The kinds of schemes. -/
inductive SchemeKind where
  /-- A scheme that the web knows, whose addresses have a host. -/
  | web
  /-- The scheme of files. -/
  | file
  | other
  deriving DecidableEq, Repr

/-- The kind of a scheme. -/
def SchemeKind.of (scheme : String) : SchemeKind :=
  if scheme ∈ ["http", "https", "ws", "wss", "ftp"] then .web
  else if scheme = "file" then .file
  else .other

/-- The port that is not written. -/
def defaultPort? : (scheme : String) → Option Nat
  | "http" | "ws" => some 80
  | "https" | "wss" => some 443
  | "ftp" => some 21
  | _ => none

/-- The name and the password of a user, with escapes. -/
structure User where
  name : String
  password : Option String
  deriving DecidableEq, Repr

namespace User

def render (user : User) : String :=
  user.name ++ (user.password.map (":" ++ ·)).getD "" ++ "@"

/-- Whether escapes stand for text. -/
def isText (escaped : String) : Bool := (unescapeText? escaped.toList).isSome

/-- Whether the user can be told to the host apart from the address. -/
def canBeTold (user : User) : Bool :=
  isText user.name && (user.name ≠ "" || (user.password.map isText).getD false)

end User

/-- A web address. All parts are written with escapes. -/
structure Url where
  scheme : String
  user : Option User
  host : Option Host
  /-- The port, if it is not the scheme's own. -/
  port : Option Nat
  path : Path
  query : Option String
  fragment : Option String
  deriving DecidableEq, Repr

namespace Url

/-- Why a text is no address. -/
inductive Fault where
  /-- There is no scheme. -/
  | relative
  | noHost
  | badHost
  | badPort
  deriving DecidableEq, Repr

/-! ### Writing -/

/-- Host and port. -/
def authority (url : Url) : String :=
  (url.host.map Host.render).getD "" ++ (url.port.map fun p => ":" ++ toString p).getD ""

/-- The path. One that starts with two slashes would be taken for a host where there is none. -/
def renderPath (url : Url) : String :=
  match url.host, url.path with
  | none, .rooted ("" :: _ :: _) => "/." ++ url.path.render
  | _, path => path.render

/-- What is asked of the host: path and query. -/
def target (url : Url) : String := url.renderPath ++ (url.query.map ("?" ++ ·)).getD ""

def render (url : Url) : String :=
  url.scheme ++ ":"
    ++ (if url.host.isSome then "//" ++ (url.user.map User.render).getD "" ++ url.authority else "")
    ++ url.target ++ (url.fragment.map ("#" ++ ·)).getD ""

/-- The address without its user, if the user can be told apart. -/
def withoutUser (url : Url) : Url :=
  { url with user := url.user.filter fun user => !user.canBeTold }

/-! ### Reading -/

/-- The text without blanks and controls at both ends, and without line breaks and tabs. -/
def clean (cs : List Char) : List Char :=
  let isEdge (c : Char) : Bool := c.toNat ≤ 0x20
  let cs := ((cs.dropWhile isEdge).reverse.dropWhile isEdge).reverse
  cs.filter fun c => !(c = '\t' || c = '\n' || c = '\r')

/-- Whether the character divides a path. -/
def isSlash (kind : SchemeKind) (c : Char) : Bool := c = '/' || (c = '\\' && kind ≠ .other)

/-- Whether the character ends the part with the host. -/
def endsHost (kind : SchemeKind) (c : Char) : Bool := isSlash kind c || c = '?' || c = '#'

/-- The name before the first colon, in lower case, and what follows the colon. -/
def scheme? (cs : List Char) : Option (String × List Char) :=
  match cs.span fun c => c.isAlphanum || c = '+' || c = '-' || c = '.' with
  | (c :: name, ':' :: rest) =>
    if c.isAlpha then some (String.ofList ((c :: name).map Char.toLower), rest) else none
  | _ => none

/-- The user that a text gives, if it gives one. -/
def userOf (cs : List Char) : Option User :=
  let name := cs.takeWhile (· ≠ ':')
  let password := cs.drop (name.length + 1)
  if name = [] ∧ password = [] then none
  else some ⟨escape userReserved name,
    if password = [] then none else some (escape userReserved password)⟩

/-- The user, and what follows it. -/
def splitUser (kind : SchemeKind) (cs : List Char) : Except Fault (Option User × List Char) :=
  let authority := cs.takeWhile fun c => !endsHost kind c
  let after := (authority.reverse.takeWhile (· ≠ '@')).length
  if after = authority.length then .ok (none, cs)
  else
    let user := authority.take (authority.length - after - 1)
    if user = [] ∧ after = 0 then .error .noHost
    else .ok (userOf user, cs.drop (user.length + 1))

/-- The length of the host at the start of a text. Between brackets it may hold colons. -/
def hostLength (kind : SchemeKind) (isBracketed : Bool) : List Char → Nat
  | [] => 0
  | c :: rest =>
    if endsHost kind c || (c = ':' && !isBracketed) then 0
    else 1 + hostLength kind (if c = '[' then true else if c = ']' then false else isBracketed) rest

/-- The port at the start of a text, behind its colon, and what follows it. The scheme's own port
and an empty one are left out. -/
def splitPort (scheme : String) : List Char → Except Fault (Option Nat × List Char)
  | ':' :: cs =>
    let digits := cs.takeWhile Char.isDigit
    let rest := cs.drop digits.length
    let port := digits.foldl (fun n c => 10 * n + (c.toNat - 48)) 0
    if 65535 < port ∨ !(rest.head?.map (endsHost .web)).getD true then .error .badPort
    else .ok (if digits = [] ∨ defaultPort? scheme = some port then none else some port, rest)
  | cs => .ok (none, cs)

/-- The pieces between slashes. -/
def pieces (kind : SchemeKind) (cs : List Char) : List (List Char) := cs.splitOnP (isSlash kind)

/-- The text without a slash at its start. -/
def dropSlash (kind : SchemeKind) : List Char → List Char
  | [] => []
  | c :: rest => if isSlash kind c then rest else c :: rest

/-- The characters of a path at the start of a text. -/
def pathSpan (cs : List Char) : List Char := cs.takeWhile fun c => !(c = '?' || c = '#')

/-- The address with the query and the fragment of a text that starts with one of them. -/
def withQuery (url : Url) (cs : List Char) : Url :=
  let reserved := if SchemeKind.of url.scheme = .other then queryReserved else '\'' :: queryReserved
  let query := match cs with
    | '?' :: rest => some (escape reserved (rest.takeWhile (· ≠ '#')))
    | _ => none
  let fragment := match cs.dropWhile (· ≠ '#') with
    | '#' :: rest => some (escape fragmentReserved rest)
    | _ => none
  { url with query, fragment }

/-- Path, query and fragment. The path goes on from `segments`, its first slash left out. -/
def withPath (url : Url) (segments : List String) (cs : List Char) : Url :=
  let kind := SchemeKind.of url.scheme
  let span := pathSpan cs
  let path := Path.rooted (Path.walk (kind = SchemeKind.file) segments (pieces kind span))
  { url with path }.withQuery (cs.drop span.length)

/-- An address without a host, of a scheme of its own. -/
def ofScheme (scheme : String) (path : Path) : Url := ⟨scheme, none, none, none, path, none, none⟩

/-- An address from its host on. -/
def ofHost (scheme : String) (cs : List Char) : Except Fault Url := do
  let kind := SchemeKind.of scheme
  let (user, cs) ← splitUser kind cs
  let text := cs.take (hostLength kind false cs)
  let rest := cs.drop text.length
  -- Without a host there can be no user and no port, and the web always has a host.
  if text = [] ∧ (kind = .web ∨ user.isSome ∨ rest.head? = some ':') then .error .noHost
  match if kind = .web then Host.known? text else Host.other? text with
  | none => .error .badHost
  | some host =>
    let (port, rest) ← splitPort scheme rest
    let url : Url := { ofScheme scheme (.rooted []) with user, host := some host, port }
    if kind = .other ∧ pathSpan rest = [] then return url.withQuery rest
    else return url.withPath [] (dropSlash kind rest)

/-- The segments of the path of a file: no empty ones at the start. -/
def fileSegments (segments : List String) : List String :=
  match segments.dropWhile (· = "") with
  | [] => [""]
  | segments => segments

/-- An address of a file, from its path on. A drive at the start takes the place of the host. -/
def ofFilePath (host : Host) (cs : List Char) : Url :=
  let url := (ofScheme "file" (.rooted [])).withPath [] cs
  let segments := url.path.segments
  -- A drive on the path means this computer, whatever host was named.
  let hasDrive := segments.head?.any fun s => Path.isDrive s.toList
  { url with
    host := some (if hasDrive then .empty else host)
    path := .rooted (fileSegments segments) }

/-- An address of a file; `cs` is what follows the colon of its scheme. One slash divides the path
from a host, or from the scheme. With an empty host it belongs to the path, so that a segment
which is empty comes first. -/
def ofFile (cs : List Char) : Except Fault Url :=
  match cs with
  | a :: b :: rest =>
    if isSlash .file a && isSlash .file b then
      let text := rest.takeWhile fun c => !endsHost .file c
      if text = [] ∨ Path.isDrive text then .ok (ofFilePath .empty rest)
      else match Host.known? text with
        | none => .error .badHost
        | some host =>
          .ok (ofFilePath (if host = .name "localhost" then .empty else host)
            (dropSlash .file (rest.drop text.length)))
    else .ok (ofFilePath .empty (dropSlash .file cs))
  | _ => .ok (ofFilePath .empty (dropSlash .file cs))

/-- An address of a scheme that the web does not know. -/
def ofOther (scheme : String) (cs : List Char) : Except Fault Url :=
  match cs with
  | '/' :: '/' :: rest => ofHost scheme rest
  | '/' :: rest => .ok ((ofScheme scheme (.rooted [])).withPath [] rest)
  | _ =>
    let span := pathSpan cs
    .ok ((ofScheme scheme (.bare (escape [] span))).withQuery (cs.drop span.length))

/-- An address from what follows the colon of its scheme. -/
def ofRest (scheme : String) (cs : List Char) : Except Fault Url :=
  match SchemeKind.of scheme with
  | .web => ofHost scheme (cs.dropWhile (isSlash .web))
  | .file => ofFile cs
  | .other => ofOther scheme cs

/-- The address that a text gives. -/
def parse (text : String) : Except Fault Url :=
  match scheme? (clean text.toList) with
  | none => .error .relative
  | some (scheme, rest) => ofRest scheme rest

/-! ### References -/

/-- A reference without a scheme, at an address of a scheme that the web knows. -/
def joinRelative (base : Url) (cs : List Char) : Except Fault Url :=
  match cs with
  | [] => .ok { base with fragment := none }
  | '#' :: rest => .ok { base with fragment := some (escape fragmentReserved rest) }
  | '?' :: rest => .ok (base.withQuery ('?' :: rest))
  | c :: rest =>
    if isSlash .web c then
      if (rest.head?.map (isSlash .web)).getD false then
        ofHost base.scheme (rest.dropWhile (isSlash .web))
      else .ok (base.withPath [] rest)
    else .ok (base.withPath base.path.segments.dropLast (c :: rest))

/-- The address that a reference means at `base`, which is of a scheme that the web knows. -/
def join (base : Url) (reference : String) : Except Fault Url :=
  let cs := clean reference.toList
  match scheme? cs with
  | none => joinRelative base cs
  | some (scheme, rest) =>
    -- The scheme may be repeated in front of a relative reference.
    if scheme = base.scheme ∧ (rest.take 2).filter (isSlash .web) ≠ rest.take 2 then
      joinRelative base rest
    else ofRest scheme rest

/-! ### Asking -/

/-- The schemes that are spoken. -/
def spokenSchemes : List String := ["http", "https"]

/-- Whether there is a host to ask. -/
def hasHost (url : Url) : Bool :=
  match url.host with
  | none | some .empty => false
  | _ => true

/-- Characters that may stand in a name but not in a request. -/
def unspoken : List Char := ['"', '\x60', '\x7b', '\x7d']

/-- The longest address that is asked. -/
def maxLength : Nat := 65534

/-- Whether the address can be asked: its scheme is spoken, and a request can name it. -/
def canBeAsked (url : Url) : Bool :=
  url.hasHost && spokenSchemes.contains url.scheme
    && !url.authority.toList.any unspoken.contains && url.render.utf8ByteSize ≤ maxLength

end Url

end Custody.Http
