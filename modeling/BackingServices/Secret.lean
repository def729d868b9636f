import BackingServices.Error

/-!
# Secrets

A secret of a length is written in hexadecimal digits.  As many bytes are drawn as
are needed to have so many digits, two for each byte, and the last digit is cut off
if the length is odd.  Lengths of zero and above 1024 are refused before a byte is
drawn.  If the source of the bytes fails there is no secret: no other source takes
its place.

The diagnostic text of a secret shows its length only.
-/

namespace BackingServices

/-- A generated secret. -/
structure Secret where
  /-- Its digits. -/
  digits : List Char
deriving DecidableEq

/-- A source of random bytes, which gives as many as it is asked for or says why it does not. -/
abbrev RandomSource := (count : Nat) → Except String (Vector UInt8 count)

namespace Secret

/-- A digit below sixteen, in lower case. -/
def hexDigit (n : Nat) : Char := if n < 10 then Char.ofNat (48 + n) else Char.ofNat (87 + n)

/-- The two digits of a byte. -/
def byteDigits (b : UInt8) : List Char := [hexDigit (b.toNat / 16), hexDigit (b.toNat % 16)]

/-- The digits of bytes. -/
def hexText (bytes : List UInt8) : List Char := bytes.flatMap byteDigits

/-- How many bytes have at least so many digits. -/
def bytesFor (length : Nat) : Nat := (length + 1) / 2

/-- The secret of a length that some bytes give. -/
def ofBytes (length : Nat) (bytes : Vector UInt8 (bytesFor length)) : Secret :=
  ⟨(hexText bytes.toList).take length⟩

/-- Generates a secret of a length, or says that there is none. -/
def generate (length : Nat) (random : RandomSource) : Except ProvisionError Secret :=
  if length = 0 ∨ maxSecretLength < length then .error (.request (.badSecretLength length))
  else
    match random (bytesFor length) with
    | .error reason => .error (.randomness reason)
    | .ok bytes => .ok (ofBytes length bytes)

/-- The text of a secret. -/
def expose (s : Secret) : String := String.ofList s.digits

/-- The length of a secret. -/
def length (s : Secret) : Nat := s.digits.length

/-- The diagnostic text of a secret. -/
def debug (s : Secret) : DebugText := .leaf s!"GeneratedSecret(<{s.length} chars redacted>)"

end Secret

end BackingServices
