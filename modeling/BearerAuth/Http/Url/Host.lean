import BearerAuth.Http.Percent
import BearerAuth.Http.Url.Punycode
import BearerAuth.Number.Layout
import BearerAuth.Text.Blank
import BearerAuth.Text.Lower

/-!
# Hosts

The host of a location is a domain, an address of version 4 or 6, or, outside the special schemes,
any name. Domains are lower-case ASCII; a domain whose last label is a number is an address.
-/

namespace BearerAuth.Http

inductive UrlError where
  | emptyHost
  | invalidDomain
  | invalidDomainCharacter
  | invalidIpv4
  | invalidIpv6
  | invalidPort
  | relative
  deriving DecidableEq, Repr

def UrlError.message : UrlError → String
  | emptyHost => "empty host"
  | invalidDomain => "invalid international domain name"
  | invalidDomainCharacter => "invalid domain character"
  | invalidIpv4 => "invalid IPv4 address"
  | invalidIpv6 => "invalid IPv6 address"
  | invalidPort => "invalid port number"
  | relative => "relative URL without a base"

inductive Host where
  /-- A domain or another name, as it is written. -/
  | name (s : List Char)
  /-- An address of four bytes. -/
  | ipv4 (address : Nat)
  /-- An address of eight pieces of two bytes. -/
  | ipv6 (pieces : List Nat)
  deriving DecidableEq, Repr

namespace Host

/-! ## Addresses of version 4 -/

/-- The value of a part of an address; a leading `0x` or `0` tells the base. -/
def ipv4Part? : List Char → Option Nat
  | [] => none
  | '0' :: 'x' :: cs | '0' :: 'X' :: cs => Text.valueIn? 16 cs
  | '0' :: c :: cs => Text.valueIn? 8 (c :: cs)
  | cs => Text.valueIn? 10 cs

/-- The labels of a domain, without the empty one after a final dot. -/
def labels (domain : List Char) : List (List Char) :=
  match (Text.pieces (· == '.') domain).reverse with
  | [] :: rest@(_ :: _) => rest.reverse
  | rest => rest.reverse

def endsInNumber (domain : List Char) : Bool :=
  match (labels domain).getLast? with
  | none | some [] => false
  | some label =>
    label.all Text.isDigit ||
      match label with
      | '0' :: 'x' :: cs | '0' :: 'X' :: cs => (Text.valueIn? 16 cs).isSome
      | _ => false

/-- Joins the parts of an address: every part but the last is one byte. -/
def joinIpv4? : List Nat → Option Nat
  | [] => none
  | parts =>
    let last := parts.getLast?.getD 0
    let lead := parts.dropLast
    if parts.length ≤ 4 ∧ lead.all (· ≤ 255) ∧ last < Nat.pow 256 (4 - lead.length) then
      some (lead.foldl (fun n b => n * 256 + b) 0 * Nat.pow 256 (4 - lead.length) + last)
    else none

def ipv4? (domain : List Char) : Option Nat :=
  ((labels domain).mapM ipv4Part?).bind joinIpv4?

def writeIpv4 (address : Nat) : List Char :=
  List.intercalate ['.']
    ([address / Nat.pow 256 3, address / Nat.pow 256 2 % 256, address / 256 % 256,
      address % 256].map Number.digitsOf)

/-! ## Addresses of version 6 -/

/-- A piece of at most four hexadecimal digits. -/
def ipv6Piece? (cs : List Char) : Option Nat :=
  if cs.isEmpty || 4 < cs.length then none else Text.valueIn? 16 cs

/-- A decimal byte without leading zeros. -/
def plainByte? (cs : List Char) : Option Nat :=
  match cs with
  | [] => none
  | '0' :: _ :: _ => none
  | cs => (Text.valueIn? 10 cs).filter (· ≤ 255)

/-- The last piece, which may be an address of version 4 and counts for two then. -/
def ipv6Tail? (cs : List Char) : Option (List Nat) :=
  if cs.contains '.' then
    match (Text.pieces (· == '.') cs).mapM plainByte? with
    | some [a, b, c, d] => some [a * 256 + b, c * 256 + d]
    | _ => none
  else (ipv6Piece? cs).map fun n => [n]

/-- The pieces between colons; only the last one may be an address of version 4. -/
def ipv6Pieces? : List (List Char) → Option (List Nat)
  | [] => some []
  | [cs] => ipv6Tail? cs
  | cs :: rest => do return (← ipv6Piece? cs) :: (← ipv6Pieces? rest)

def ipv6Side? (allowsTail : Bool) (cs : List Char) : Option (List Nat) :=
  if cs.isEmpty then some []
  else if !allowsTail && cs.contains '.' then none
  else ipv6Pieces? (Text.pieces (· == ':') cs)

/-- What stands before and after the first double colon. -/
def splitDouble : List Char → Option (List Char × List Char)
  | [] => none
  | [_] => none
  | ':' :: ':' :: cs => some ([], cs)
  | c :: cs => (splitDouble cs).map fun (before, after) => (c :: before, after)

def ipv6? (cs : List Char) : Option (List Nat) :=
  match splitDouble cs with
  | none => (ipv6Side? true cs).filter fun pieces => pieces.length = 8
  | some (before, after) => do
    let before ← ipv6Side? false before
    let after ← ipv6Side? true after
    if before.length + after.length ≤ 7 then
      some (before ++ List.replicate (8 - before.length - after.length) 0 ++ after)
    else none

def leadingZeros (pieces : List Nat) : Nat :=
  (pieces.takeWhile (· == 0)).length

/-- The longest run of zeros among those that start at the given place or later. -/
def longestRun : Nat → List Nat → Nat
  | best, [] => best
  | best, n :: rest => longestRun (max best (leadingZeros (n :: rest))) rest

def colonJoined (pieces : List Nat) : List Char :=
  List.intercalate [':'] (pieces.map (Nat.toDigits 16))

/-- Writes pieces with their first run of `run` zeros as a double colon. -/
def writeFolded (run : Nat) : List Nat → List Nat → List Char
  | before, [] => colonJoined before.reverse
  | before, n :: rest =>
    if leadingZeros (n :: rest) = run then
      colonJoined before.reverse ++ [':', ':'] ++ colonJoined ((n :: rest).drop run)
    else writeFolded run (n :: before) rest

/-- A run of one zero is not folded. -/
def writeIpv6 (pieces : List Nat) : List Char :=
  let run := longestRun 0 pieces
  if run < 2 then colonJoined pieces else writeFolded run [] pieces

/-! ## Domains -/

def isForbidden (c : Char) : Bool :=
  c.toNat ≤ 0x20 || c.toNat = 0x7F || c = '\x60' || c = '\x7b' || c = '\x7d' ||
    ['%', '#', '/', ':', '<', '>', '?', '@', '[', '\\', ']', '^', '|'].contains c

/-- The form under which a character takes part in a domain. -/
def foldChar (c : Char) : List Char :=
  if c.toNat = 0xAD then []
  else if c.toNat = 0x3002 || c.toNat = 0xFF0E || c.toNat = 0xFF61 then ['.']
  else if 0xFF01 ≤ c.toNat && c.toNat ≤ 0xFF5E then [Char.ofNat (c.toNat - 0xFEE0)]
  else [c]

def asciiLabel (label : List Char) : List Char :=
  if label.all (fun c => c.toNat < 128) then label
  else ['x', 'n', '-', '-'] ++ Punycode.encode label

def asciiDomain (domain : List Char) : List Char :=
  let folded := Text.lowerChars (domain.flatMap foldChar)
  List.intercalate ['.'] ((Text.pieces (· == '.') folded).map asciiLabel)

/-- Reads a domain or an address in its place. -/
def ofDomain (cs : List Char) : Except UrlError Host :=
  match Text.Utf8.decode? (Percent.decode cs) with
  | none => .error .invalidDomain
  | some domain =>
    let domain := asciiDomain domain
    if domain.any isForbidden then .error .invalidDomain
    else if domain.isEmpty then .error .emptyHost
    else if endsInNumber domain then
      match ipv4? domain with
      | some address => .ok (.ipv4 address)
      | none => .error .invalidIpv4
    else .ok (.name domain)

def isForbiddenInName (c : Char) : Bool :=
  ['#', '/', ':', '<', '>', '?', '@', '[', '\\', ']', '^', '|', ' '].contains c || c.toNat = 0

def ofName (cs : List Char) : Except UrlError Host :=
  if cs.any isForbiddenInName then .error .invalidDomainCharacter
  else .ok (.name (Percent.encode Percent.controls cs))

def ofChars (special : Bool) (cs : List Char) : Except UrlError Host :=
  match cs with
  | '[' :: rest =>
    match rest.reverse with
    | ']' :: inner =>
      match ipv6? inner.reverse with
      | some pieces => .ok (.ipv6 pieces)
      | none => .error .invalidIpv6
    | _ => .error .invalidIpv6
  | _ => if special then ofDomain cs else ofName cs

def write : Host → List Char
  | name s => s
  | ipv4 address => writeIpv4 address
  | ipv6 pieces => '[' :: writeIpv6 pieces ++ [']']

end Host

end BearerAuth.Http
