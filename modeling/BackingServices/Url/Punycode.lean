/-!
# Encoded labels

A label of a domain name with characters outside ASCII is also written in ASCII: its
ASCII characters, a hyphen if there are any, and a number for each other character,
in the order of their code points.  A number tells how many places the decoder passes
over before it puts the next character in: it goes through all places of the label
with one code point, then through all of them with the next one.

Numbers are written in base 36, the lowest digit first.  A digit below the threshold
of its position ends the number, and thresholds follow a bias that is adapted to the
numbers read so far.
-/

namespace BackingServices.Url.Punycode

/-- The value of a digit in base 36: letters come first. -/
def digit? (c : Char) : Option Nat :=
  if 'a' ≤ c ∧ c ≤ 'z' then some (c.toNat - 97)
  else if c.isDigit then some (c.toNat - 48 + 26)
  else none

/-- The greatest quotient that the bias is computed of directly. -/
def greatestQuotient : Nat := 455

/-- The bias of a quotient, to which 36 is added for every division by 35. -/
def biasOf (quotient : Nat) (sum : Nat) : Nat :=
  if greatestQuotient < quotient then biasOf (quotient / 35) (sum + 36)
  else sum + 36 * quotient / (quotient + 38)
termination_by quotient
decreasing_by exact Nat.div_lt_self (by unfold greatestQuotient at *; omega) (by omega)

/-- The bias behind a number in a label of some length.  The first number counts less. -/
def adapted (number length : Nat) (isFirst : Bool) : Nat :=
  let quotient := if isFirst then number / 700 else number / 2
  biasOf (quotient + quotient / length) 0

/-- The threshold at a position, where positions are 36, 72 and so on. -/
def threshold (bias position : Nat) : Nat :=
  if position ≤ bias then 1 else if bias + 26 ≤ position then 26 else position - bias

/-- What is known between two digits. -/
structure Decoder where
  /-- The label so far. -/
  label : List Char
  /-- The code point that is put in next unless it grows. -/
  code : Nat := 128
  /-- The place that is next. -/
  place : Nat := 0
  /-- The bias of the thresholds. -/
  bias : Nat := 72
  /-- The value of the digits of the number that is being read. -/
  number : Nat := 0
  /-- The weight of the next digit. -/
  weight : Nat := 1
  /-- The position of the next digit. -/
  position : Nat := 36

namespace Decoder

/-- No number may reach this one. -/
def limit : Nat := 4294967296

/-- Whether no number is being read. -/
def isDone (decoder : Decoder) : Bool := decoder.position == 36

/-- Puts in the character that a number stands for, if there is one. -/
def insert? (decoder : Decoder) (number : Nat) : Option Decoder :=
  let length := decoder.label.length + 1
  let passed := decoder.place + number
  let code := decoder.code + passed / length
  let place := passed % length
  if code < 0xD800 ∨ (0xE000 ≤ code ∧ code < 0x110000) then
    some {
      label := decoder.label.take place ++ Char.ofNat code :: decoder.label.drop place
      code
      place := place + 1
      bias := adapted number length (decoder.place == 0) }
  else none

/-- Reads a digit. -/
def read? (decoder : Decoder) (c : Char) : Option Decoder := do
  let digit ← digit? c
  let number := decoder.number + digit * decoder.weight
  let threshold := threshold decoder.bias decoder.position
  let weight := decoder.weight * (36 - threshold)
  if limit ≤ decoder.place + number then none
  else if digit < threshold then decoder.insert? number
  else if limit ≤ weight then none
  else some { decoder with number, weight, position := decoder.position + 36 }

end Decoder

/-- The greatest length of an encoded label. -/
def greatestLength : Nat := 2000

/-- The ASCII characters and the digits of an encoded label: the last hyphen is between them unless
it comes first. -/
def parts (cs : List Char) : List Char × List Char :=
  let digits := (cs.reverse.takeWhile (· != '-')).reverse
  let ascii := cs.take (cs.length - digits.length - 1)
  if ascii.isEmpty then ([], cs) else (ascii, digits)

/-- The label of an encoded one. -/
def decode? (cs : List Char) : Option (List Char) :=
  if greatestLength < cs.length then none
  else
    match (parts cs).2.foldlM Decoder.read? { label := (parts cs).1 } with
    | some decoder => if decoder.isDone then some decoder.label else none
    | none => none

end BackingServices.Url.Punycode
