import BackingServices.Url.Domain

/-!
# URLs

The root of a chart registry must be a URL as browsers read them, which is more
lenient than a URI.  Blanks and controls around the text are cut off, and tabs
and line ends are dropped everywhere.  The scheme is read in either case.

What follows depends on the scheme.

* The schemes of the web need a host.  Any number of slashes or backslashes may
  stand before it, and the host is a domain name or a numeric address.
* A file has a host only behind two slashes or backslashes, and it may be empty.
  The letter of a drive takes its place, also as the first segment of the path.
* Any other scheme has a host behind two slashes only.  That host is not
  interpreted, but some characters are not allowed in it, and it may be empty if
  neither user information nor a port goes with it.

`Url` keeps the scheme and the host.  Nothing in paths, queries and fragments
makes a text fail to be a URL, and only the path of a file can change the host.
-/

namespace BackingServices

namespace Url

/-- Why a text is no URL. -/
inductive Fault where
  /-- There is no scheme. -/
  | relative
  /-- There is no host where one is needed. -/
  | emptyHost
  /-- The port is no number up to 65535. -/
  | badPort
  /-- The address in brackets is none. -/
  | badIpv6
  /-- The host ends in a number and is no address. -/
  | badIpv4
  /-- The host is no domain name. -/
  | badDomain
  /-- The host has a character that is not allowed. -/
  | badDomainCharacter
deriving DecidableEq

/-- The wording of a fault. -/
def Fault.message : Fault → String
  | .relative => "relative URL without a base"
  | .emptyHost => "empty host"
  | .badPort => "invalid port number"
  | .badIpv6 => "invalid IPv6 address"
  | .badIpv4 => "invalid IPv4 address"
  | .badDomain => "invalid international domain name"
  | .badDomainCharacter => "invalid domain character"

/-- A host. -/
inductive Host where
  /-- A name: a domain name in standard form, or an uninterpreted text. -/
  | name (text : String)
  /-- A numeric address of four bytes. -/
  | ipv4 (address : Nat)
  /-- A numeric address of eight pieces. -/
  | ipv6 (pieces : List Nat)
deriving DecidableEq

/-- The three classes of schemes. -/
inductive SchemeClass where
  /-- The scheme of files. -/
  | file
  /-- The schemes whose addresses have a host and a path. -/
  | web
  /-- All others. -/
  | other
deriving DecidableEq

/-- The class of a scheme. -/
def SchemeClass.of (scheme : String) : SchemeClass :=
  if scheme = "file" then .file
  else if scheme ∈ ["http", "https", "ws", "wss", "ftp"] then .web
  else .other

/-! ## The text that is read -/

/-- Whether a character is cut off at the ends. -/
def isTrimmed (c : Char) : Bool := c.toNat ≤ 0x20

/-- Whether a character is dropped everywhere. -/
def isIgnored (c : Char) : Bool := c == '\t' || c == '\n' || c == '\r'

/-- The characters of a text that are read. -/
def significant (s : String) : List Char :=
  let trimmed := ((s.toList.dropWhile isTrimmed).reverse.dropWhile isTrimmed).reverse
  trimmed.filter fun c => !isIgnored c

/-- Whether a character may stand in a scheme behind the first. -/
def isSchemeChar (c : Char) : Bool := c.isAlphanum || c == '+' || c == '-' || c == '.'

/-- Splits the scheme and its colon off. -/
def scheme? (cs : List Char) : Option (String × List Char) :=
  match cs with
  | [] => none
  | c :: _ =>
    if c.isAlpha then
      match cs.dropWhile isSchemeChar with
      | ':' :: rest => some (String.ofList ((cs.takeWhile isSchemeChar).map Char.toLower), rest)
      | _ => none
    else none

/-! ## Hosts and ports -/

/-- Whether a character separates hosts of a class from the path. -/
def isSlash (cls : SchemeClass) (c : Char) : Bool := c == '/' || (c == '\\' && cls != .other)

/-- Whether a character ends the part with user, host and port. -/
def endsAuthority (cls : SchemeClass) (c : Char) : Bool := isSlash cls c || c == '?' || c == '#'

/-- Drops the user information, and says whether there was any that is not empty. -/
def dropUser (cls : SchemeClass) (cs : List Char) : Except Fault (Bool × List Char) :=
  let authority := cs.takeWhile fun c => !endsAuthority cls c
  if authority.contains '@' then
    let host := (authority.reverse.takeWhile (· != '@')).reverse
    let user := authority.take (authority.length - host.length - 1)
    let rest := cs.drop (user.length + 1)
    if user.isEmpty && rest.head?.any (endsAuthority cls) then .error .emptyHost
    else .ok (!user.isEmpty && user != [':'], rest)
  else .ok (false, cs)

/-- How many characters the host takes that some characters begin with.  Inside brackets a colon
does not end it. -/
def hostLength (cls : SchemeClass) : Bool → List Char → Nat
  | _, [] => 0
  | inside, c :: cs =>
    if c = ':' ∧ !inside then 0
    else if endsAuthority cls c then 0
    else hostLength cls (if c = '[' then true else if c = ']' then false else inside) cs + 1

/-- The address in brackets. -/
def bracketed (cs : List Char) : Except Fault Host :=
  if cs.getLast? = some ']' then
    match ipv6? (cs.drop 1).dropLast with
    | some pieces => .ok (.ipv6 pieces)
    | none => .error .badIpv6
  else .error .badIpv6

/-- Reads the host of a web or file URL. -/
def interpretedHost (cs : List Char) : Except Fault Host :=
  if cs.head? = some '[' then bracketed cs
  else
    match domain? (String.ofList cs) with
    | none => .error .badDomain
    | some name =>
      if name.isEmpty then .error .emptyHost
      else if endsInNumber name then
        match ipv4? name with
        | some address => .ok (.ipv4 address)
        | none => .error .badIpv4
      else .ok (.name (String.ofList name))

/-- Whether a character is not allowed in a host that is not interpreted. -/
def isForbidden (c : Char) : Bool := c == '\x00' || " #/:<>?@[\\]^|".toList.contains c

/-- Reads the host of any other URL. -/
def opaqueHost (cs : List Char) : Except Fault Host :=
  if cs.head? = some '[' then bracketed cs
  else if cs.any isForbidden then .error .badDomainCharacter
  else .ok (.name (String.ofList cs))

/-- Checks a port behind its colon. -/
def checkPort (cs : List Char) : Except Fault Unit :=
  let digits := cs.takeWhile Char.isDigit
  if 65535 < (number? 10 digits).getD 0 then .error .badPort
  else
    match cs.dropWhile Char.isDigit with
    | [] => .ok ()
    | c :: _ => if endsAuthority .web c then .ok () else .error .badPort

/-- Reads user, host and port. -/
def authority (cls : SchemeClass) (cs : List Char) : Except Fault (Option Host) := do
  let (hasUser, cs) ← dropUser cls cs
  let length := hostLength cls false cs
  let name := cs.take length
  let rest := cs.drop length
  if cls = .web ∧ name.isEmpty then .error .emptyHost
  else
    let host ← (if cls = .web then interpretedHost name else opaqueHost name)
    if host = .name "" ∧ (rest.head? = some ':' ∨ hasUser) then .error .emptyHost
    else
      if rest.head? = some ':' then checkPort (rest.drop 1)
      .ok (if host = .name "" then none else some host)

/-- Whether a text is a letter of a drive and the sign behind it. -/
def isDrive : List Char → Bool
  | [c, d] => c.isAlpha && (d == ':' || d == '|')
  | _ => false

/-! ## Paths of files -/

/-- The segments of a path, which is cut at its slashes and ends in front of a query or a fragment. -/
def segments : List Char → List (List Char)
  | [] => [[]]
  | c :: cs =>
    if c = '?' ∨ c = '#' then [[]]
    else if isSlash .file c then [] :: segments cs
    else (segments cs).modifyHead (c :: ·)

/-- Whether a segment leads back to where the path is. -/
def isHere (segment : List Char) : Bool :=
  [".", "%2e"].any fun dot => dot.toList = segment.map Char.toLower

/-- Whether a segment takes back the one before it. -/
def isParent (segment : List Char) : Bool :=
  ["..", ".%2e", "%2e.", "%2e%2e"].any fun dots => dots.toList = segment.map Char.toLower

/-- Takes back the last of the segments that a path has, which come last first.  The letter of a drive
is not taken back. -/
def goUp : List (List Char) → List (List Char)
  | [] => []
  | segment :: before => if isDrive segment then segment :: before else before

/-- Whether the first segment of a path comes to be the letter of a drive, from the segments it has, which
come last first, and those that are still to be read. -/
def entersDrive : List (List Char) → List (List Char) → Bool
  | _, [] => false
  | before, segment :: rest =>
    if isParent segment then entersDrive (goUp before) rest
    else if isHere segment then entersDrive before rest
    else if before.isEmpty && isDrive segment then true
    else entersDrive (segment :: before) rest

/-- The segments of the path behind a host. -/
def segmentsBehind (cs : List Char) : List (List Char) :=
  (segments (cs.dropWhile fun c => !endsAuthority .file c)).drop 1

/-- Reads the name of a host of a file, which may be missing. -/
def fileName (cs : List Char) : Except Fault (Option Host) :=
  let name := cs.takeWhile fun c => !endsAuthority .file c
  if name.isEmpty || isDrive name then .ok none
  else do
    let host ← interpretedHost name
    .ok (if host = .name "localhost" then none else some host)

/-- Reads the host of a file behind two slashes.  There is none in front of the letter of a drive. -/
def fileHost (cs : List Char) : Except Fault (Option Host) :=
  (fileName cs).map fun host? => if entersDrive [] (segmentsBehind cs) then none else host?

end Url

/-- A URL, as far as it matters here. -/
structure Url where
  /-- The scheme in lower case. -/
  scheme : String
  /-- The host, if there is one. -/
  host? : Option Url.Host
deriving DecidableEq

/-- Reads a URL. -/
def Url.parse (s : String) : Except Url.Fault Url :=
  match Url.scheme? (Url.significant s) with
  | none => .error .relative
  | some (scheme, rest) => do
    match SchemeClass.of scheme with
    | .web => .ok ⟨scheme, ← authority .web (rest.dropWhile (isSlash .web))⟩
    | .file =>
      match rest with
      | a :: b :: cs =>
        if isSlash .file a && isSlash .file b then .ok ⟨scheme, ← fileHost cs⟩ else .ok ⟨scheme, none⟩
      | _ => .ok ⟨scheme, none⟩
    | .other =>
      match rest with
      | '/' :: '/' :: cs => .ok ⟨scheme, ← authority .other cs⟩
      | _ => .ok ⟨scheme, none⟩

end BackingServices
