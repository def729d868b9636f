import BackingServices.Text.Composition
import BackingServices.Text.Utf8
import BackingServices.Url.Address
import BackingServices.Url.Direction
import BackingServices.Url.Joiner
import BackingServices.Url.Mapping
import BackingServices.Url.Punycode

/-!
# Domain names

The host of a URL whose scheme is one of the web is a domain name, in which
percent signs with two hexadecimal digits stand for bytes.  The bytes must be
well-formed UTF-8.

A domain name is brought to a standard form: each character is replaced by what it
stands for, and characters are composed.  After that no control, no blank, no percent
sign and none of the delimiters of a URL may be left.

A label that begins with `xn--` must be the encoding of a label in standard form with
a character outside ASCII.  A label with such a character, encoded or not, does not
begin with a mark and has joiners only where they can be seen, and the labels of a
domain name have directions if one of them needs it.
-/

namespace BackingServices.Url

/-! ## Percent signs -/

/-- The byte of two hexadecimal digits. -/
def hexByte? (high low : UInt8) : Option UInt8 := do
  let x ← hexDigit? (Char.ofNat high.toNat)
  let y ← hexDigit? (Char.ofNat low.toNat)
  return (x * 16 + y).toUInt8

/-- The bytes that a text with percent signs stands for. -/
def percentDecode : List UInt8 → List UInt8
  | b :: h :: l :: rest =>
    match if b = 0x25 then hexByte? h l else none with
    | some byte => byte :: percentDecode rest
    | none => b :: percentDecode (h :: l :: rest)
  | bs => bs

/-! ## Labels -/

/-- Whether characters are all in ASCII. -/
def isAscii (cs : List Char) : Bool := cs.all fun c => c.toNat < 0x80

/-- Whether an ASCII character is never part of a domain name. -/
def isDelimiter (c : Char) : Bool :=
  c.toNat ≤ 0x20 || c == '\x7f' || "%#/:<>?@[\\]^|".toList.contains c

/-- What an encoded label begins with. -/
def encodedMark : List Char := "xn--".toList

/-- Whether a label is in standard form. -/
def isStandard (label : List Char) : Bool :=
  label.all (fun c => decide (Mapping.of c = .itself)) && Text.composed label == label

/-- Whether a decoded label has an encoding at all, and is what its encoding stands for. -/
def isDecoded (label : List Char) : Bool :=
  !isAscii label && !encodedMark.isPrefixOf label && isStandard label

/-- The greatest length of a label that is to be encoded. -/
def greatestLabel : Nat := 1000

/-- The label that a label of a domain name in standard form stands for. -/
def label? (label : List Char) : Option (List Char) :=
  if encodedMark.isPrefixOf label then
    if isAscii label then (Punycode.decode? (label.drop encodedMark.length)).filter isDecoded else none
  else if isAscii label || label.length ≤ greatestLabel then some label
  else none

/-- Whether a label that stands for itself is allowed. -/
def isLabel (label : List Char) : Bool :=
  isAscii label || (!label.head?.any Text.isMark && Joiner.areAllowed [] label)

/-! ## Domain names -/

/-- Whether a domain name in standard form is allowed. -/
def isDomain (name : List Char) : Bool :=
  !name.any isDelimiter &&
    match (labels name).mapM label? with
    | none => false
    | some decoded => decoded.all isLabel && Direction.areLabels decoded

/-- The standard form of a domain name, if it is one. -/
def domain? (host : String) : Option (List Char) :=
  match Text.decode? (percentDecode (Text.encode host)) with
  | .error _ => none
  | .ok text => ((Mapping.all? text.toList).map Text.composed).filter isDomain

end BackingServices.Url
