import BackingServices.Text.Utf8
import BackingServices.Yaml.Place
import BackingServices.Yaml.Resolve

/-!
# Anchors, tags and directives

A tag is a sequence of octets.  It is written in ASCII characters, where a
percent sign and two digits stand for an octet and such octets come in groups
that look like one UTF-8 character each.  A tag is verbatim between `!<` and
`>`, or has a handle and a suffix.  A handle is `!`, `!!` or a name between two
exclamation marks, and a directive may say which octets it stands for.

Another directive gives the version of YAML.  Both kinds stand before the dashes
that begin a document, each on a line of its own.
-/

namespace BackingServices.Yaml

/-! ## Names -/

/-- What may follow the name of an anchor or alias. -/
def endsName (p : Place) : Bool := p.atBlank || p.rest.head?.any fun c => "?:,]\x7d%@`".toList.contains c

/-- Reads the name of an anchor or alias behind its indicator. -/
def Place.name (p : Place) (activity : Activity) : Except Fault (String × Place) :=
  let name := (p.rest.drop 1).takeWhile isNameCharacter
  let q := p.skip (1 + name.length)
  if name.isEmpty || !endsName q then .error (q.fault .badName activity p.mark)
  else .ok (String.ofList name, q)

/-! ## Octets -/

/-- The octet of a percent sign and two digits. -/
def octet? : List Char → Option Nat
  | '%' :: a :: b :: _ => digitsValue? 16 [a, b]
  | _ => none

/-- How many octets belong to a character that begins with an octet. -/
def octetWidth? (octet : Nat) : Option Nat :=
  if octet < 0x80 then some 1
  else if 0xC0 ≤ octet ∧ octet < 0xE0 then some 2
  else if 0xE0 ≤ octet ∧ octet < 0xF0 then some 3
  else if 0xF0 ≤ octet ∧ octet < 0xF8 then some 4
  else none

/-- Reads so many further octets of a character. -/
def laterOctets (activity : Activity) (beginning : Mark) : Nat → Place → Except Fault (List UInt8 × Place)
  | 0, p => .ok ([], p)
  | n + 1, p =>
    match octet? p.rest with
    | none => .error (p.fault .noOctet activity beginning)
    | some octet =>
      if 0x80 ≤ octet ∧ octet < 0xC0 then do
        let (octets, q) ← laterOctets activity beginning n (p.skip 3)
        .ok (octet.toUInt8 :: octets, q)
      else .error (p.fault .badTrailingOctet activity beginning)

/-- Reads the octets of one character. -/
def characterOctets (activity : Activity) (beginning : Mark) (p : Place) :
    Except Fault (List UInt8 × Place) :=
  match octet? p.rest with
  | none => .error (p.fault .noOctet activity beginning)
  | some octet =>
    match octetWidth? octet with
    | none => .error (p.fault .badLeadingOctet activity beginning)
    | some width => do
      let (octets, q) ← laterOctets activity beginning (width - 1) (p.skip 3)
      .ok (octet.toUInt8 :: octets, q)

/-- Reads the octets of a tag. -/
def octetsFuel (verbatim : Bool) (activity : Activity) (beginning : Mark) :
    Nat → Place → Except Fault (List UInt8 × Place)
  | 0, p => .ok ([], p)
  | n + 1, p =>
    match p.rest with
    | c :: _ =>
      if c = '%' then do
        let (octets, q) ← characterOctets activity beginning p
        let (rest, r) ← octetsFuel verbatim activity beginning n q
        .ok (octets ++ rest, r)
      else if isTagCharacter verbatim c then do
        let (rest, r) ← octetsFuel verbatim activity beginning n (p.skip 1)
        .ok (c.toNat.toUInt8 :: rest, r)
      else .ok ([], p)
    | [] => .ok ([], p)

/-- Reads the octets of a tag, of which there must be some unless `optional`. -/
def tagOctets (verbatim optional : Bool) (activity : Activity) (beginning : Mark) (p : Place) :
    Except Fault (List UInt8 × Place) := do
  let (octets, q) ← octetsFuel verbatim activity beginning (p.rest.length + 1) p
  if octets.isEmpty && !optional then .error (q.fault .noTag activity beginning) else .ok (octets, q)

/-! ## Tags -/

/-- A tag as it is written: a handle, which is empty for a verbatim one, and a suffix. -/
structure WrittenTag where
  /-- The handle. -/
  handle : String
  /-- The octets behind it. -/
  suffix : List UInt8
deriving DecidableEq

/-- The octets of an ASCII text. -/
def octetsOf (cs : List Char) : List UInt8 := cs.map fun c => c.toNat.toUInt8

/-- The exclamation mark, the name and the closing exclamation mark of a handle, as far as they are
there. -/
def handleText (cs : List Char) : List Char :=
  let name := (cs.drop 1).takeWhile isNameCharacter
  let close := if (cs.drop (1 + name.length)).head? = some '!' then ['!'] else []
  '!' :: name ++ close

/-- Whether the text of a handle is a handle in its own right: it has a closing mark. -/
def isClosedHandle (cs : List Char) : Bool := 1 < cs.length && cs.getLast? == some '!'

/-- Reads the form of a tag at its exclamation mark. -/
def tagForm (p : Place) : Except Fault (WrittenTag × Place) :=
  if (p.rest.drop 1).head? = some '<' then do
    let (octets, q) ← tagOctets true false .tagText p.mark (p.skip 2)
    if q.sees '>' then .ok (⟨"", octets⟩, q.skip 1) else .error (q.fault .unclosedTag .tag p.mark)
  else
    let handle := handleText p.rest
    let q := p.skip handle.length
    if isClosedHandle handle then do
      let (octets, r) ← tagOctets false false .tagText p.mark q
      .ok (⟨String.ofList handle, octets⟩, r)
    else do
      let (octets, r) ← tagOctets false true .tagText p.mark q
      let suffix := octetsOf (handle.drop 1) ++ octets
      .ok (if suffix.isEmpty then ⟨"", octetsOf ['!']⟩ else ⟨"!", suffix⟩, r)

/-- Reads a tag at its exclamation mark. -/
def Place.tag (p : Place) (inFlow : Bool) : Except Fault (WrittenTag × Place) := do
  let (tag, q) ← tagForm p
  if q.atBlank || (inFlow && q.sees ',') then .ok (tag, q)
  else .error (q.fault .noBlankOrLineEnd .tag p.mark)

/-! ## Directives -/

/-- What the line of a directive says. -/
inductive Directive where
  /-- The version of YAML. -/
  | version (major minor : Nat)
  /-- What a handle stands for. -/
  | handle (name : String) (octets : List UInt8)
deriving DecidableEq

/-- How many digits a number of a version may have. -/
def versionDigits : Nat := 9

/-- Reads a number of a version. -/
def versionNumber (beginning : Mark) (p : Place) : Except Fault (Nat × Place) :=
  let digits := p.rest.takeWhile Char.isDigit
  if versionDigits < digits.length then
    .error ((p.skip versionDigits).fault .longVersion .versionDirective beginning)
  else
    match natural? 10 digits with
    | none => .error (p.fault .noVersion .versionDirective beginning)
    | some n => .ok (n, p.skip digits.length)

/-- Reads the two numbers of a version. -/
def versionText (beginning : Mark) (p : Place) : Except Fault (Directive × Place) := do
  let (major, q) ← versionNumber beginning (p.skipWhile isBlank)
  if q.sees '.' then
    let (minor, r) ← versionNumber beginning (q.skip 1)
    .ok (.version major minor, r)
  else .error (q.fault .noPoint .versionDirective beginning)

/-- Reads a handle and what it stands for. -/
def handleDeclaration (beginning : Mark) (p : Place) : Except Fault (Directive × Place) :=
  let p := p.skipWhile isBlank
  if !p.sees '!' then .error (p.fault .noExclamation .handle beginning)
  else
    let handle := handleText p.rest
    let q := p.skip handle.length
    if handle.length ≠ 1 ∧ !isClosedHandle handle then
      .error (q.fault .noExclamation .handleEnd beginning)
    else if !q.rest.head?.any isBlank then .error (q.fault .noBlank .handleDirective beginning)
    else do
      let (octets, r) ← tagOctets true false .handleText beginning (q.skipWhile isBlank)
      if r.atBlank then .ok (.handle (String.ofList handle) octets, r)
      else .error (r.fault .noBlankOrLineEnd .handleDirective beginning)

/-- Reads a directive at its percent sign and passes its line. -/
def Place.directive (p : Place) : Except Fault (Directive × Place) := do
  let name := (p.rest.drop 1).takeWhile isNameCharacter
  let q := p.skip (1 + name.length)
  if name.isEmpty then .error (q.fault .noDirectiveName .directive p.mark)
  else if !q.atBlank then .error (q.fault .badDirectiveName .directive p.mark)
  else
    let (directive, r) ←
      if name = "YAML".toList then versionText p.mark q
      else if name = "TAG".toList then handleDeclaration p.mark q
      else .error (q.fault .unknownDirective .directive p.mark)
    let r := (r.skipWhile isBlank).skipComment
    if r.atLineEnd then .ok (directive, r.skipBreak)
    else .error (r.fault .noLineEnd .directive p.mark)

end BackingServices.Yaml
