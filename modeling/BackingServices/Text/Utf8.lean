/-!
# Text from bytes

Well-formed UTF-8 and what is wrong with bytes that are not.  `decode?` names
the first place where decoding fails: its index, and how many bytes are taken to
belong to the broken character, or that the input ends inside one.  `decode`
replaces every maximal broken piece by U+FFFD.

The admissible second bytes are those of the Unicode standard: overlong forms,
surrogates and code points beyond U+10FFFF are excluded by the range of the
second byte, every later byte is a plain continuation.
-/

namespace BackingServices.Text

/-- How many bytes the character of a lead byte has and between which bounds its second byte lies. -/
def Utf8.lead? (b : UInt8) : Option (Nat × UInt8 × UInt8) :=
  if b < 0x80 then some (1, 0, 0)
  else if b < 0xC2 then none
  else if b < 0xE0 then some (2, 0x80, 0xBF)
  else if b = 0xE0 then some (3, 0xA0, 0xBF)
  else if b = 0xED then some (3, 0x80, 0x9F)
  else if b < 0xF0 then some (3, 0x80, 0xBF)
  else if b = 0xF0 then some (4, 0x90, 0xBF)
  else if b < 0xF4 then some (4, 0x80, 0xBF)
  else if b = 0xF4 then some (4, 0x80, 0x8F)
  else none

/-- How many of the following bytes fit a character that still needs `need` bytes, of which the
first lies between the given bounds. -/
def Utf8.fitting : Nat → UInt8 → UInt8 → List UInt8 → Nat
  | 0, _, _, _ => 0
  | _, _, _, [] => 0
  | need + 1, lo, hi, b :: bs => if lo ≤ b ∧ b ≤ hi then 1 + fitting need 0x80 0xBF bs else 0

/-- The first thing at the front of some bytes. -/
inductive Utf8.Piece where
  /-- A character of so many bytes. -/
  | character (length : Nat)
  /-- So many bytes that begin a character which the next byte breaks off. -/
  | broken (length : Nat)
  /-- So many bytes that begin a character which the end of the input breaks off. -/
  | incomplete (length : Nat)
deriving DecidableEq

/-- What stands at the front of bytes. -/
def Utf8.front (b : UInt8) (bs : List UInt8) : Utf8.Piece :=
  match lead? b with
  | none => .broken 1
  | some (length, lo, hi) =>
    let found := fitting (length - 1) lo hi bs
    if found = length - 1 then .character length
    else if found = bs.length then .incomplete (found + 1)
    else .broken (found + 1)

/-- The code point of the bytes of one character. -/
def Utf8.codePoint : List UInt8 → Nat
  | [] => 0
  | [b] => b.toNat
  | b :: bs =>
    bs.foldl (fun acc c => acc * 64 + c.toNat % 64) (b.toNat % Nat.pow 2 (6 - bs.length))

/-- What is wrong with bytes that are not well-formed UTF-8. -/
inductive Utf8.Fault where
  /-- Bytes that begin no character, so many of them, from an index on. -/
  | invalid (length index : Nat)
  /-- The input ends inside the character that begins at an index. -/
  | incomplete (index : Nat)
deriving DecidableEq, Repr

/-- The wording of a fault. -/
def Utf8.Fault.message : Utf8.Fault → String
  | .invalid length index => s!"invalid utf-8 sequence of {length} bytes from index {index}"
  | .incomplete index => s!"incomplete utf-8 byte sequence from index {index}"

/-- The characters of bytes and the first fault, reading from an index on with some fuel. -/
def Utf8.scan : Nat → Nat → List UInt8 → List Char × Option Utf8.Fault
  | 0, _, _ => ([], none)
  | _, _, [] => ([], none)
  | fuel + 1, index, b :: bs =>
    let rest := fun length => scan fuel (index + length) ((b :: bs).drop length)
    match front b bs with
    | .character length =>
      let (cs, fault) := rest length
      (Char.ofNat (codePoint ((b :: bs).take length)) :: cs, fault)
    | .broken length => ('\uFFFD' :: (rest length).1, some (.invalid length index))
    | .incomplete length => ('\uFFFD' :: (rest length).1, some (.incomplete index))

/-- The text of bytes, every broken piece replaced by U+FFFD. -/
def decode (bytes : List UInt8) : String :=
  String.ofList (Utf8.scan bytes.length 0 bytes).1

/-- The text of well-formed bytes, or their first fault. -/
def decode? (bytes : List UInt8) : Except Utf8.Fault String :=
  match Utf8.scan bytes.length 0 bytes with
  | (cs, none) => .ok (String.ofList cs)
  | (_, some fault) => .error fault

/-- The UTF-8 bytes of a text. -/
def encode (s : String) : List UInt8 := s.toUTF8.toList

end BackingServices.Text
