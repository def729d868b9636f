/-!
# URIs

The addresses of clusters, and the targets of requests to them, are URIs in the
strict sense: bytes that would have to be percent-encoded are refused, not
encoded.  Three shapes are read.

* A target: a path that begins with a slash, and a query.
* An authority alone, such as `h` or `h:80`.
* A scheme, an authority, and a target that may be missing.

A fragment is cut off.  In paths and queries all bytes outside ASCII are allowed,
and a path also has the two braces and the double quote.  Authorities have ASCII
alone; a percent sign is allowed in the user information only.  Ports are not
looked at.

Reading goes by characters.  That is the same as by bytes, since a character
outside ASCII has no byte in it.
-/

namespace BackingServices

/-- Why a text is no URI. -/
inductive UriError where
  /-- There is nothing to read. -/
  | empty
  /-- A character is not allowed where it stands. -/
  | badCharacter
  /-- The authority has too many colons, unpaired brackets or nothing behind its user. -/
  | badAuthority
  /-- There is a target without a scheme or a scheme without an authority. -/
  | badFormat
  /-- The scheme is too long. -/
  | schemeTooLong
  /-- The text is too long. -/
  | tooLong
deriving DecidableEq

/-- The wording of an error. -/
def UriError.message : UriError → String
  | .empty => "empty string"
  | .badCharacter => "invalid uri character"
  | .badAuthority => "invalid authority"
  | .badFormat => "invalid format"
  | .schemeTooLong => "scheme too long"
  | .tooLong => "uri too long"

/-- The target of a request: a path, and a query if there is a question mark. -/
structure Target where
  /-- The path. -/
  path : String
  /-- What follows the question mark. -/
  query? : Option String
deriving DecidableEq

/-- The text of a target. -/
def Target.text (t : Target) : String :=
  t.path ++ (match t.query? with
    | some query => "?" ++ query
    | none => "")

namespace Uri

/-- The greatest length of a URI in bytes. -/
def maxLength : Nat := 65534

/-- The greatest length of a scheme that is not a well-known one. -/
def maxSchemeLength : Nat := 64

/-! ## Targets -/

/-- Whether a character may stand in a path. -/
def isPathChar (c : Char) : Bool :=
  let n := c.toNat
  n == 0x21 || (0x24 ≤ n && n ≤ 0x3B) || n == 0x3D || (0x40 ≤ n && n ≤ 0x5F) ||
    (0x61 ≤ n && n ≤ 0x7E) || n == 0x22 || 0x7F ≤ n

/-- Whether a character may stand in a query. -/
def isQueryChar (c : Char) : Bool :=
  let n := c.toNat
  n == 0x21 || (0x24 ≤ n && n ≤ 0x3B) || n == 0x3D || (0x3F ≤ n && n ≤ 0x7E) || 0x7F ≤ n

/-- Whether a character ends a path. -/
def endsPath (c : Char) : Bool := c == '?' || c == '#'

/-- Reads a query behind its question mark up to a fragment. -/
def parseQuery (cs : List Char) : Except UriError String :=
  let query := cs.takeWhile (· != '#')
  if query.all isQueryChar then .ok (String.ofList query) else .error .badCharacter

/-- Reads a path and a query. -/
def parseTarget (cs : List Char) : Except UriError Target :=
  let path := cs.takeWhile fun c => !endsPath c
  if path.all isPathChar then
    match cs.dropWhile fun c => !endsPath c with
    | '?' :: query => do .ok ⟨String.ofList path, some (← parseQuery query)⟩
    | _ => .ok ⟨String.ofList path, none⟩
  else .error .badCharacter

/-! ## Authorities -/

/-- Whether a character may stand in an authority. -/
def isAuthorityChar (c : Char) : Bool :=
  c.isAlphanum || "!$&'()*+,-.:;=@[]_~".toList.contains c

/-- Whether a character ends an authority. -/
def endsAuthority (c : Char) : Bool := c == '/' || c == '?' || c == '#'

/-- What has been seen of an authority. -/
structure Seen where
  /-- The colons since the last at sign or closing bracket. -/
  colons : Nat
  /-- An opening bracket was seen. -/
  opened : Bool
  /-- A closing bracket was seen. -/
  closed : Bool
  /-- A percent sign was seen since the last at sign or closing bracket. -/
  percent : Bool
  /-- The last character was an at sign. -/
  atSign : Bool

/-- Nothing was seen. -/
def Seen.none : Seen := ⟨0, false, false, false, false⟩

/-- Checks the characters of an authority, given what was seen before. -/
def checkAuthority (seen : Seen) : List Char → Except UriError Seen
  | [] => .ok seen
  | c :: cs =>
    if c = ':' then
      if 8 ≤ seen.colons then .error .badAuthority
      else checkAuthority { seen with colons := seen.colons + 1, atSign := false } cs
    else if c = '[' then
      if seen.percent || seen.opened then .error .badAuthority
      else checkAuthority { seen with opened := true, atSign := false } cs
    else if c = ']' then
      if !seen.opened || seen.closed then .error .badAuthority
      else checkAuthority { seen with closed := true, colons := 0, percent := false, atSign := false } cs
    else if c = '@' then
      checkAuthority { seen with colons := 0, percent := false, atSign := true } cs
    else if c = '%' then checkAuthority { seen with percent := true, atSign := false } cs
    else if isAuthorityChar c then checkAuthority { seen with atSign := false } cs
    else .error .badCharacter

/-- Splits the authority off that some characters begin with. -/
def parseAuthority (cs : List Char) : Except UriError (List Char × List Char) := do
  let authority := cs.takeWhile fun c => !endsAuthority c
  let seen ← checkAuthority Seen.none authority
  if seen.opened != seen.closed || 1 < seen.colons || seen.atSign || seen.percent then
    .error .badAuthority
  else .ok (authority, cs.dropWhile fun c => !endsAuthority c)

/-! ## Schemes -/

/-- Whether a character may stand in a scheme. -/
def isSchemeChar (c : Char) : Bool := c.isAlphanum || c == '+' || c == '-' || c == '.' || c == '~'

/-- Splits a scheme and the three characters behind it off.  The two schemes of the web are read in
either case and kept in lower case. -/
def parseScheme? (cs : List Char) : Except UriError (Option (String × List Char)) :=
  let lower := (cs.take 8).map Char.toLower
  if lower.take 7 = "http://".toList then .ok (some ("http", cs.drop 7))
  else if lower = "https://".toList then .ok (some ("https", cs.drop 8))
  else if cs.length ≤ 3 then .ok none
  else
    let scheme := cs.takeWhile isSchemeChar
    match cs.dropWhile isSchemeChar with
    | ':' :: '/' :: '/' :: rest =>
      if maxSchemeLength < scheme.length then .error .schemeTooLong
      else .ok (some (String.ofList scheme, rest))
    | _ => .ok none

end Uri

/-- A URI. -/
structure Uri where
  /-- The scheme. -/
  scheme? : Option String
  /-- The authority. -/
  authority? : Option String
  /-- The target. -/
  target? : Option Target
deriving DecidableEq

namespace Uri

/-- Reads a URI. -/
def parse (s : String) : Except UriError Uri := do
  let cs := s.toList
  if maxLength < s.utf8ByteSize then .error .tooLong
  else if cs = [] then .error .empty
  else if cs = ['*'] then .ok ⟨none, none, some ⟨"*", none⟩⟩
  else if cs.head? = some '/' then .ok ⟨none, none, some (← parseTarget cs)⟩
  else
    match ← parseScheme? cs with
    | none =>
      let (authority, rest) ← parseAuthority cs
      if rest.isEmpty then .ok ⟨none, some (String.ofList authority), none⟩
      else .error (if cs.length = 1 then .badCharacter else .badFormat)
    | some (scheme, rest) =>
      if rest.isEmpty then .error .empty
      else
        let (authority, rest) ← parseAuthority rest
        if authority.isEmpty then .error .badFormat
        else .ok ⟨some scheme, some (String.ofList authority), some (← parseTarget rest)⟩

/-- The text of a URI.  Behind an authority with a scheme there is always a path. -/
def text (u : Uri) : String :=
  let scheme := match u.scheme? with
    | some scheme => scheme ++ "://"
    | none => ""
  let target := match u.target? with
    | some t => (if t.path = "" then { t with path := "/" } else t).text
    | none => ""
  scheme ++ u.authority?.getD "" ++ target

/-- Reads the target of a request. -/
def parseRequest (s : String) : Except UriError Target :=
  if maxLength < s.utf8ByteSize then .error .tooLong else parseTarget s.toList

end Uri

end BackingServices
