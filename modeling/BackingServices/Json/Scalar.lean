import BackingServices.Binary64.Scaled
import BackingServices.Json.Cursor

/-!
# Reading the strings and numbers of a JSON text

A string or number is read whether its value is wanted or not.  If it is not, less is
refused: a surrogate may stand alone then, and a number may be of any size.  A malformed
piece is reported behind the byte that shows it, but a control character in a string
that is not wanted is reported before it.  The four digits of an escape are four bytes.

Of the digits of a number only so many count as fit 64 bits; those behind them only
scale it.  A number that is no integer of 64 bits is a double, read in steps.
-/

namespace BackingServices

namespace Reading

/-! ## Strings -/

/-- The value of a hexadecimal digit. -/
def hexValue? (c : Char) : Option Nat :=
  if c.isDigit then some (c.toNat - 48)
  else if 'a' ≤ c ∧ c ≤ 'f' then some (c.toNat - 87)
  else if 'A' ≤ c ∧ c ≤ 'F' then some (c.toNat - 55)
  else none

/-- The value of some hexadecimal digits. -/
def hexNumber? (cs : List Char) : Option Nat :=
  cs.foldl (fun acc c => do return (← acc) * 16 + (← hexValue? c)) (some 0)

/-- How many bytes characters have, counted up to some number. -/
def bytesUpTo : Nat → List Char → Nat
  | 0, _ => 0
  | _, [] => 0
  | n + 1, c :: cs => c.utf8Size + bytesUpTo n cs

/-- Takes four hexadecimal digits. -/
def fourHex : Reading Nat := do
  let place ← get
  let digits := place.rest.take 4
  match if digits.length = 4 then hexNumber? digits else none with
  | some n =>
    modify fun c => digits.foldl (fun c _ => c.advance) c
    return n
  | none =>
    let enough := 4 ≤ bytesUpTo 4 digits
    let bytes := if enough then 4 else bytesUpTo 4 digits
    throw ⟨.malformed (if enough then .badEscape else .endInString),
      some (Cursor.positionBehind bytes place.rest place.line place.column)⟩

/-- The next character of a string, which must not end here. -/
def peekInString : Reading Char := do
  match ← peek with
  | none => failHere .endInString
  | some c => return c

/-- Takes the second half of a surrogate pair and joins it to the first. -/
def surrogatePair (high : Nat) : Reading Char := do
  if (← peekInString) = '\\' then skip else failNext .brokenSurrogate
  if (← peekInString) = 'u' then skip else failNext .brokenSurrogate
  let low ← fourHex
  if 0xDC00 ≤ low ∧ low ≤ 0xDFFF then
    return Char.ofNat (0x10000 + (high - 0xD800) * 0x400 + (low - 0xDC00))
  else failHere .loneSurrogate

/-- The characters that a letter or sign behind a backslash stands for. -/
def escapes : List (Char × Char) :=
  [('"', '"'), ('\\', '\\'), ('/', '/'), ('b', '\x08'), ('f', '\x0c'), ('n', '\n'), ('r', '\r'),
    ('t', '\t')]

/-- Takes an escape after its backslash.  Of a string that is dropped only the form is checked. -/
def escape (kept : Bool) : Reading Char := do
  let c ← peekInString
  match escapes.lookup c with
  | some d => do
    skip
    return d
  | none =>
    if c = 'u' then do
      skip
      let n ← fourHex
      if !kept then return Char.ofNat n
      else if 0xDC00 ≤ n ∧ n ≤ 0xDFFF then failHere .loneSurrogate
      else if 0xD800 ≤ n ∧ n ≤ 0xDBFF then surrogatePair n
      else return Char.ofNat n
    else failNext .badEscape

/-- Takes a string behind its opening quote, given what was read of it in reverse. -/
def stringFuel (kept : Bool) : Nat → List Char → Reading String
  | 0, _ => failHere .endInString
  | n + 1, acc => do
    let c ← peekInString
    if c = '"' then do
      skip
      return String.ofList acc.reverse
    else if c = '\\' then do
      skip
      let c ← escape kept
      stringFuel kept n (c :: acc)
    else if c.toNat < 0x20 then
      if kept then failNext .controlCharacter else failHere .controlCharacter
    else do
      skip
      stringFuel kept n (c :: acc)

/-- Takes a string behind its opening quote. -/
def string (kept : Bool) : Reading String := do
  stringFuel kept ((← get).rest.length + 1) []

/-! ## Numbers -/

/-- Takes digits. -/
def digits : Reading (List Char) := do
  let ds := (← get).rest.takeWhile Char.isDigit
  modify fun c => ds.foldl (fun c _ => c.advance) c
  return ds

/-- The value of decimal digits. -/
def digitsValue (ds : List Char) : Nat := ds.foldl (fun acc d => acc * 10 + (d.toNat - 48)) 0

/-- Takes the digits before the point: a zero, or digits that do not begin with one. -/
def wholeDigits (kept : Bool) : Reading (List Char) := do
  match ← peek with
  | none => failHere (if kept then .endInValue else .badNumber)
  | some '0' => do
    skip
    match ← peek with
    | some d => if d.isDigit then failNext .badNumber else return ['0']
    | none => return ['0']
  | some d => if d.isDigit then digits else failNext .badNumber

/-- Takes the digits behind a point, if there is one. -/
def fractionDigits (kept : Bool) : Reading (Option (List Char)) := do
  if (← peek) = some '.' then
    skip
    match ← digits with
    | [] =>
      if kept && (← peek).isNone then failHere .endInValue else failNext .badNumber
    | ds => return some ds
  else return none

/-- An exponent as it is written. -/
structure Exponent where
  /-- Whether it is below zero. -/
  negative : Bool
  /-- Its digits. -/
  digits : List Char

/-- Takes an exponent, if there is one. -/
def exponent (kept : Bool) : Reading (Option Exponent) := do
  match ← peek with
  | some 'e' | some 'E' =>
    skip
    let sign ← peek
    if sign = some '+' ∨ sign = some '-' then skip
    match ← digits with
    | [] =>
      match ← peek with
      | none => failHere (if kept then .endInValue else .badNumber)
      | some _ => failNext .badNumber
    | ds => return some ⟨sign = some '-', ds⟩
  | _ => return none

/-- The greatest exponent that is looked at. -/
def greatestExponent : Nat := 2147483647

/-- How many digits of an exponent are enough to see that it is too great. -/
def Exponent.tooGreatAfter? (e : Exponent) : Option Nat :=
  (List.range (e.digits.length + 1)).find? fun n => greatestExponent < digitsValue (e.digits.take n)

/-- The value of an exponent. -/
def Exponent.value (e : Exponent) : Int :=
  let n := Int.ofNat (digitsValue e.digits)
  if e.negative then -n else n

/-- The value of digits behind a value, as far as it fits 64 bits, and the digits that are left. -/
def fitDigits : Nat → List Char → Nat × List Char
  | n, [] => (n, [])
  | n, d :: ds =>
    let m := n * 10 + (d.toNat - 48)
    if m < 18446744073709551616 then fitDigits m ds else (n, d :: ds)

/-- A number as it is written, without its exponent. -/
structure Mantissa where
  /-- The value of the digits that count. -/
  value : Nat
  /-- How far the point is to the right of them. -/
  shift : Int

/-- The mantissa of digits before and behind the point. -/
def Mantissa.of (whole fraction : List Char) : Mantissa :=
  let (n, left) := fitDigits 0 whole
  let (n, leftOfFraction) := fitDigits n fraction
  ⟨n, Int.ofNat left.length - Int.ofNat (fraction.length - leftOfFraction.length)⟩

/-- The number of a token without exponent: an integer if it has no fraction and fits 64 bits, and a
double otherwise.  A negative zero is a double. -/
def tokenNumber? (negative : Bool) (whole : List Char) (fraction? : Option (List Char)) : Option Number :=
  let m := Mantissa.of whole (fraction?.getD [])
  let real := (Binary64.scaled? negative m.value m.shift).map Number.real
  if fraction?.isSome || m.shift != 0 || (negative && m.value == 0) then real
  else (Number.ofInt? (if negative then -Int.ofNat m.value else Int.ofNat m.value)).or real

/-- The number of a token with an exponent that has just been taken. -/
def scaledNumber (negative : Bool) (whole : List Char) (fraction? : Option (List Char)) (e : Exponent) :
    Reading Number := do
  let m := Mantissa.of whole (fraction?.getD [])
  match e.tooGreatAfter? with
  | some enough =>
    if m.value ≠ 0 ∧ !e.negative then
      let place ← get
      throw ⟨.malformed .numberTooLarge, some (place.line, place.column - (e.digits.length - enough))⟩
    else return .real (.zero negative)
  | none =>
    match Binary64.scaled? negative m.value (m.shift + e.value) with
    | some x => return .real x
    | none => failHere .numberTooLarge

/-- Takes a number behind its sign. -/
def number (kept negative : Bool) : Reading Number := do
  let whole ← wholeDigits kept
  let fraction? ← fractionDigits kept
  let exponent? ← exponent kept
  if kept then
    match exponent? with
    | some e => scaledNumber negative whole fraction? e
    | none =>
      match tokenNumber? negative whole fraction? with
      | some n => return n
      | none => failHere .numberTooLarge
  else return default

end Reading

end BackingServices
