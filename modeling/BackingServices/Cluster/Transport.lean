import BackingServices.Text.Pem
import BackingServices.Url.Address

/-!
# What secures the transport

Before a server is reached, certificates, keys and the name of the server are handed to
a library that secures the transport.  What it says of them is data here.

`Transport.plain` says what can be said without reading the contents of keys and
certificates: a certificate of an authority must be one sequence, those who make
themselves known must have a key and a certificate, and a server must have the name of
a domain or an address.
-/

namespace BackingServices.Cluster

/-- What is wrong with what is handed to the library that secures the transport. -/
structure Transport where
  /-- What is wrong with a certificate of an authority. -/
  authorityFault? : List UInt8 → Option String
  /-- What is wrong with the certificates and the key of a user. -/
  identityFault? : List UInt8 → Option String
  /-- What is wrong with the name of a server. -/
  nameFault? : String → Option String

namespace Transport

/-! ## Certificates of authorities -/

/-- Whether some bytes are one sequence of the encoding of certificates: a tag, a length and as many
bytes as it says. -/
def isSequence : List UInt8 → Bool
  | 0x30 :: 0x81 :: a :: rest => 0x80 ≤ a && rest.length == a.toNat
  | 0x30 :: 0x82 :: a :: b :: rest => a != 0 && rest.length == a.toNat * 256 + b.toNat
  | 0x30 :: 0x83 :: a :: b :: c :: rest =>
    a != 0 && rest.length == (a.toNat * 256 + b.toNat) * 256 + c.toNat
  | 0x30 :: a :: rest => a < 0x80 && rest.length == a.toNat
  | _ => false

/-! ## Certificates and keys of users -/

/-- The tags of blocks that hold a key. -/
def keyTags : List String := ["PRIVATE KEY", "RSA PRIVATE KEY", "EC PRIVATE KEY"]

/-- What is wrong with blocks among which there should be a key and a certificate. -/
def blocksFault? (bytes : List UInt8) : Option String :=
  match Text.Pem.read bytes with
  | .error fault => some ("identity PEM is invalid: " ++ fault.message)
  | .ok blocks =>
    if !blocks.any (keyTags.contains ·.tag) then
      some "identity PEM is missing a private key: the key must be PKCS8 or RSA/PKCS1"
    else if !blocks.any (·.tag == "CERTIFICATE") then some "identity PEM is missing certificate"
    else none

/-! ## Names of servers -/

/-- The greatest length of a label. -/
def greatestLabel : Nat := 63

/-- The greatest length of the name of a domain. -/
def greatestName : Nat := 253

/-- Whether some characters are a label in the name of a domain. -/
def isLabel (cs : List Char) : Bool :=
  cs.length ≤ greatestLabel && cs.all (fun c => c.isAlphanum || c == '-' || c == '_') &&
    cs.head?.any (· != '-') && cs.getLast?.any (· != '-')

/-- Whether some characters are the name of a domain, whose last label is no number. -/
def isDomain (cs : List Char) : Bool :=
  let labels := Url.hostParts cs
  cs.length ≤ greatestName && labels.all isLabel && labels.getLast?.any (!·.all Char.isDigit)

/-- Whether some characters are an address in numbers. -/
def isAddress (cs : List Char) : Bool := (Url.embedded? cs).isSome || (Url.ipv6? cs).isSome

/-- What can be said without reading the contents of keys and certificates. -/
def plain : Transport where
  authorityFault? bytes := if isSequence bytes then none else some "invalid peer certificate: BadEncoding"
  identityFault? := blocksFault?
  nameFault? name :=
    if isDomain name.toList || isAddress name.toList then none else some "invalid dns name"

end Transport

end BackingServices.Cluster
