import BearerAuth.Http.Url.Host

/-!
# Locations

A location has a scheme, an authority with a host, a path, a query and a fragment. Reading one
brings it into normal form: the scheme and the domain in lower case, no default port, dots in the
path resolved, and characters that may not stand for themselves percent-encoded.

The special schemes always have a host and a path, and a backslash counts as a slash there.
-/

namespace BearerAuth.Http

inductive UrlPath where
  /-- Segments, each after a slash. -/
  | segments (items : List (List Char))
  /-- A text that is not divided. -/
  | text (s : List Char)
  deriving DecidableEq, Repr

structure Url where
  scheme : List Char
  username : List Char
  password : List Char
  host : Option Host
  /-- The port, unless it is the one of the scheme. -/
  port : Option Nat
  path : UrlPath
  query : Option (List Char)
  fragment : Option (List Char)
  deriving DecidableEq, Repr

namespace Url

/-! ## Schemes -/

/-- The special schemes other than `file` and their ports. -/
def defaultPorts : List (List Char × Nat) :=
  [("http".toList, 80), ("https".toList, 443), ("ws".toList, 80), ("wss".toList, 443),
    ("ftp".toList, 21)]

def isFile (scheme : List Char) : Bool :=
  scheme = "file".toList

def isSpecial (scheme : List Char) : Bool :=
  isFile scheme || (defaultPorts.lookup scheme).isSome

def lowerAscii (c : Char) : Char :=
  if 'A' ≤ c ∧ c ≤ 'Z' then Char.ofNat (c.toNat + 32) else c

/-- Whether a character may stand in a scheme after the first. -/
def isSchemeChar (c : Char) : Bool :=
  Text.isLetter c || Text.isDigit c || c = '+' || c = '-' || c = '.'

/-- The scheme of a text and what follows its colon. -/
def scheme? (cs : List Char) : Option (List Char × List Char) :=
  if (cs.head?.map Text.isLetter).getD false then
    match cs.dropWhile isSchemeChar with
    | ':' :: rest => some ((cs.takeWhile isSchemeChar).map lowerAscii, rest)
    | _ => none
  else none

/-! ## Cutting -/

def cutAt (p : Char → Bool) (cs : List Char) : List Char × List Char :=
  (cs.takeWhile fun c => !p c, cs.dropWhile fun c => !p c)

/-- What stands before the first `c`, and what stands after it if it is there. -/
def cutOff (c : Char) (cs : List Char) : List Char × Option (List Char) :=
  match cutAt (· == c) cs with
  | (before, []) => (before, none)
  | (before, _ :: after) => (before, some after)

def isSlash (special : Bool) (c : Char) : Bool :=
  c = '/' || (special && c = '\\')

/-! ## Authority -/

/-- Credentials before the last at sign, and what follows it. -/
def credentials (authority : List Char) : List Char × List Char × List Char :=
  match cutAt (· == '@') authority.reverse with
  | (_, []) => ([], [], authority)
  | (after, _ :: before) =>
    let (username, password) := cutOff ':' before.reverse
    (Percent.encode Percent.userinfo username,
      Percent.encode Percent.userinfo (password.getD []), after.reverse)

/-- The host and, from its colon on, the port of an authority. A colon between brackets belongs to
the host. -/
def splitPort (inside : Bool) : List Char → List Char × List Char
  | [] => ([], [])
  | c :: cs =>
    if c = ':' && !inside then ([], c :: cs)
    else
      let inside := if c = '[' then true else if c = ']' then false else inside
      let (host, port) := splitPort inside cs
      (c :: host, port)

/-- Reads a port; the port of the scheme counts as none. -/
def portNumber (scheme : List Char) (cs : List Char) : Except UrlError (Option Nat) :=
  if !cs.all Text.isDigit then .error .invalidPort
  else
    let n := cs.foldl (fun n c => n * 10 + (c.toNat - 48)) 0
    if 65535 < n then .error .invalidPort
    else if cs.isEmpty || defaultPorts.lookup scheme = some n then .ok none
    else .ok (some n)

/-- Reads host and port. Only outside the special schemes may the host be empty, and then it has
neither port nor credentials. -/
def hostAndPort (scheme : List Char) (hasCredentials : Bool) (cs : List Char) :
    Except UrlError (Host × Option Nat) := do
  let special := isSpecial scheme
  let (hostPart, portPart) := splitPort false cs
  if hostPart.isEmpty && (special || hasCredentials || !portPart.isEmpty) then .error .emptyHost
  else
    let host ← Host.ofChars special hostPart
    let port ← portNumber scheme (portPart.drop 1)
    return (host, port)

/-! ## Paths -/

def isSingleDot (segment : List Char) : Bool :=
  [".", "%2e"].contains (String.ofList (segment.map lowerAscii))

def isDoubleDot (segment : List Char) : Bool :=
  ["..", ".%2e", "%2e.", "%2e%2e"].contains (String.ofList (segment.map lowerAscii))

def isDrive : List Char → Bool
  | [c, d] => Text.isLetter c && (d = ':' || d = '|')
  | _ => false

/-- The path without its last segment; the drive of a file stays. -/
def parent (file : Bool) (segments : List (List Char)) : List (List Char) :=
  match segments with
  | [drive] => if file && isDrive drive then [drive] else []
  | _ => segments.dropLast

def written (file : Bool) (done : List (List Char)) (segment : List Char) : List Char :=
  match segment with
  | [c, _] => if file && done.isEmpty && isDrive segment then [c, ':']
    else Percent.encode Percent.path segment
  | _ => Percent.encode Percent.path segment

/-- A dot segment at the end leaves an empty segment. -/
def resolve (file : Bool) (done : List (List Char)) : List (List Char) → List (List Char)
  | [] => done
  | segment :: rest =>
    let closing := if rest.isEmpty then [[]] else []
    if isDoubleDot segment then resolve file (parent file done ++ closing) rest
    else if isSingleDot segment then resolve file (done ++ closing) rest
    else resolve file (done ++ [written file done segment]) rest

/-- The segments of a path that starts with a slash, or of the empty path of a special scheme. -/
def segments (scheme : List Char) (cs : List Char) : List (List Char) :=
  let special := isSpecial scheme
  let resolved := resolve (isFile scheme) [] (Text.pieces (isSlash special) (cs.drop 1))
  -- The path of a file has no empty segments in front.
  if isFile scheme then
    match resolved.dropWhile List.isEmpty with
    | [] => [[]]
    | items => items
  else resolved

/-! ## Reading -/

def bare (scheme : List Char) (path : UrlPath) : Url :=
  ⟨scheme, [], [], none, none, path, none, none⟩

def ofAuthority (scheme cs : List Char) : Except UrlError Url := do
  let special := isSpecial scheme
  let (authority, pathPart) := cutAt (isSlash special) cs
  let (username, password, rest) := credentials authority
  let (host, port) ← hostAndPort scheme (!username.isEmpty || !password.isEmpty) rest
  let path := if pathPart.isEmpty && !special then [] else segments scheme pathPart
  return ⟨scheme, username, password, some host, port, .segments path, none, none⟩

/-- The host of a file; the local host counts as none. -/
def fileHost (cs : List Char) : Except UrlError Host :=
  if cs.isEmpty then .ok (.name [])
  else
    (Host.ofChars true cs).map fun host =>
      if host.write = "localhost".toList then .name [] else host

def ofFile (scheme cs : List Char) : Except UrlError Url :=
  let withHost := fun (host : Host) (path : List Char) =>
    { bare scheme (.segments (segments scheme path)) with host := some host }
  match cs with
  | a :: b :: rest =>
    if isSlash true a && isSlash true b then
      let (host, path) := cutAt (isSlash true) rest
      -- A drive in the place of the host belongs to the path.
      if isDrive host then .ok (withHost (.name []) ('/' :: rest))
      else (fileHost host).map fun host => withHost host path
    else if isSlash true a then .ok (withHost (.name []) cs)
    else .ok (withHost (.name []) ('/' :: cs))
  | [a] => .ok (withHost (.name []) (if isSlash true a then cs else '/' :: cs))
  | [] => .ok (withHost (.name []) [])

/-- Reads what follows a scheme, up to the query. -/
def ofScheme (scheme cs : List Char) : Except UrlError Url :=
  if isFile scheme then ofFile scheme cs
  -- An authority follows however many slashes there are.
  else if isSpecial scheme then ofAuthority scheme (cs.dropWhile (isSlash true))
  else
    match cs with
    | '/' :: '/' :: rest => ofAuthority scheme rest
    | '/' :: _ => .ok (bare scheme (.segments (segments scheme cs)))
    | _ => .ok (bare scheme (.text (Percent.encode Percent.controls cs)))

def isEdge (c : Char) : Bool :=
  c.toNat ≤ 0x20

/-- The text without controls and spaces at its ends, and without tabs and line breaks. -/
def cleaned (cs : List Char) : List Char :=
  let inner := ((cs.dropWhile isEdge).reverse.dropWhile isEdge).reverse
  inner.filter fun c => c.toNat ≠ 9 ∧ c.toNat ≠ 10 ∧ c.toNat ≠ 13

def ofString (s : String) : Except UrlError Url :=
  match scheme? (cleaned s.toList) with
  | none => .error .relative
  | some (scheme, rest) =>
    let (rest, fragment) := cutOff '#' rest
    let (rest, query) := cutOff '?' rest
    let encodedQuery := if isSpecial scheme then Percent.specialQuery else Percent.query
    (ofScheme scheme rest).map fun url =>
      { url with
        query := query.map (Percent.encode encodedQuery)
        fragment := fragment.map (Percent.encode Percent.fragment) }

/-! ## Writing -/

def writeAuthority (url : Url) (host : Host) : List Char :=
  let password := if url.password.isEmpty then [] else ':' :: url.password
  let user := if url.username.isEmpty && url.password.isEmpty then []
    else url.username ++ password ++ ['@']
  let port := match url.port with
    | some n => ':' :: Number.digitsOf n
    | none => []
  ['/', '/'] ++ user ++ host.write ++ port

/-- Without an authority, a path that starts with two slashes is marked by a dot. -/
def writePath (url : Url) : List Char :=
  match url.path with
  | .text s => s
  | .segments items =>
    let mark := match url.host, items with
      | none, [] :: _ :: _ => ['/', '.']
      | _, _ => []
    mark ++ items.flatMap ('/' :: ·)

def text (url : Url) : String :=
  let authority := match url.host with
    | some host => url.writeAuthority host
    | none => []
  let query := match url.query with
    | some cs => '?' :: cs
    | none => []
  let fragment := match url.fragment with
    | some cs => '#' :: cs
    | none => []
  String.ofList (url.scheme ++ ':' :: (authority ++ url.writePath ++ query ++ fragment))

def hostText? (url : Url) : Option String :=
  url.host.map fun host => String.ofList host.write

end Url

end BearerAuth.Http
