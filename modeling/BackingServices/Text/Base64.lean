import BackingServices.Text.Utf8

/-!
# Base64

Three bytes are written as a group of four digits.  The last group may have two or
three digits and is then filled up by equal signs.  The bits of the last digit that
belong to no byte must be zero, so that every sequence of bytes has one text.

`decode` says what is wrong with other texts.  Of several faults the leftmost counts,
but for two exceptions: a text that is one longer than whole groups and ends in a byte
that is no digit is blamed for that byte, and the length of the last group is only
looked at if its symbols are good.
-/

namespace BackingServices.Text.Base64

/-- What is wrong with a text that is not base64. -/
inductive Fault where
  /-- A byte is not in its place. -/
  | symbol (byte : UInt8) (offset : Nat)
  /-- The last group has one digit only. -/
  | length (count : Nat)
  /-- The last digit has bits that belong to no byte. -/
  | lastSymbol (byte : UInt8) (offset : Nat)
  /-- The last group is not filled up. -/
  | padding
deriving DecidableEq

/-- The wording of a fault. -/
def Fault.message : Fault → String
  | .symbol byte offset => s!"Invalid symbol {byte.toNat}, offset {offset}."
  | .length count => s!"Invalid input length: {count}"
  | .lastSymbol byte offset => s!"Invalid last symbol {byte.toNat}, offset {offset}."
  | .padding => "Invalid padding"

/-- The value of a digit. -/
def digit? (b : UInt8) : Option Nat :=
  if 65 ≤ b ∧ b ≤ 90 then some (b.toNat - 65)
  else if 97 ≤ b ∧ b ≤ 122 then some (b.toNat - 71)
  else if 48 ≤ b ∧ b ≤ 57 then some (b.toNat + 4)
  else if b = 43 then some 62
  else if b = 47 then some 63
  else none

/-- The equal sign. -/
def pad : UInt8 := 61

/-- The value of the digit at an offset. -/
def digit (offset : Nat) (b : UInt8) : Except Fault Nat :=
  match digit? b with
  | some v => .ok v
  | none => .error (.symbol b offset)

/-- The bytes that some digits stand for; six bits after the last whole byte are dropped. -/
def bytes : List Nat → List UInt8
  | a :: b :: c :: d :: rest =>
    UInt8.ofNat (a * 4 + b / 16) :: UInt8.ofNat (b % 16 * 16 + c / 4) :: UInt8.ofNat (c % 4 * 64 + d) ::
      bytes rest
  | [a, b, c] => [UInt8.ofNat (a * 4 + b / 16), UInt8.ofNat (b % 16 * 16 + c / 4)]
  | [a, b] => [UInt8.ofNat (a * 4 + b / 16)]
  | _ => []

/-- Whether the last of so many digits of a group has bits that belong to no byte. -/
def hasSpareBits : List Nat → Bool
  | [_, b] => b % 16 != 0
  | [_, _, c] => c % 4 != 0
  | _ => false

/-- The digits of a last group that begins at an offset, before its padding. -/
def lastDigits (offset : Nat) : Nat → List UInt8 → Except Fault (List Nat × Nat)
  | _, [] => .ok ([], 0)
  | index, b :: bs =>
    if b = pad then
      if index < 2 ∨ bs.any (· != pad) then .error (.symbol b (offset + index))
      else .ok ([], bs.length + 1)
    else do
      let v ← digit (offset + index) b
      let (vs, padding) ← lastDigits offset (index + 1) bs
      .ok (v :: vs, padding)

/-- The digits of a last group that begins at an offset. -/
def lastGroup (offset : Nat) (bs : List UInt8) : Except Fault (List Nat) := do
  let (vs, padding) ← lastDigits offset 0 bs
  if bs ≠ [] ∧ vs.length < 2 then .error (.length (offset + vs.length))
  else if (vs.length + padding) % 4 ≠ 0 then .error .padding
  else if hasSpareBits vs then
    .error (.lastSymbol ((bs[vs.length - 1]?).getD pad) (offset + vs.length - 1))
  else .ok vs

/-- The digits of the groups from an offset on. -/
def groups : Nat → List UInt8 → Except Fault (List Nat)
  | offset, a :: b :: c :: d :: next :: rest => do
    let a ← digit offset a
    let b ← digit (offset + 1) b
    let c ← digit (offset + 2) c
    let d ← digit (offset + 3) d
    .ok (a :: b :: c :: d :: (← groups (offset + 4) (next :: rest)))
  | offset, bs => lastGroup offset bs

/-- Blames a byte behind whole groups that is no digit. -/
def checkEnd (bs : List UInt8) : Except Fault Unit :=
  match bs.getLast? with
  | some b =>
    if bs.length % 4 = 1 ∧ b ≠ pad ∧ (digit? b).isNone then .error (.symbol b (bs.length - 1)) else .ok ()
  | none => .ok ()

/-- The bytes that a text stands for. -/
def decode (bs : List UInt8) : Except Fault (List UInt8) := do
  checkEnd bs
  .ok (bytes (← groups 0 bs))

end BackingServices.Text.Base64
