import BackingServices.Json.Basic

/-!
# JSON text

The compact text of a value: no blanks, members in the order they have, a quote
and a backslash escaped, the five control characters with letters of their own
written by these and the other ones below U+0020 by four hexadecimal digits.
All other characters stand for themselves.
-/

namespace BackingServices.Json

/-- A natural as four hexadecimal digits. -/
def fourHex (n : Nat) : List Char :=
  let digits := Text.hexDigits n
  List.replicate (4 - digits.length) '0' ++ digits

/-- One character inside a JSON string. -/
def stringChar (c : Char) : List Char :=
  if c = '"' then ['\\', '"']
  else if c = '\\' then ['\\', '\\']
  else if c = '\x08' then ['\\', 'b']
  else if c = '\x0c' then ['\\', 'f']
  else if c = '\n' then ['\\', 'n']
  else if c = '\r' then ['\\', 'r']
  else if c = '\t' then ['\\', 't']
  else if c.toNat < 0x20 then '\\' :: 'u' :: fourHex c.toNat
  else [c]

/-- The JSON text of a string. -/
def stringText (s : String) : List Char := '"' :: s.toList.flatMap stringChar ++ ['"']

mutual

/-- The characters of the compact text. -/
def chars : Json → List Char
  | .null => "null".toList
  | .bool b => (if b then "true" else "false").toList
  | .number n => n.text.toList
  | .string s => stringText s
  | .array items => '[' :: itemChars items ++ [']']
  | .object members => '\x7b' :: memberChars members ++ ['\x7d']

/-- Values with commas between them. -/
def itemChars : List Json → List Char
  | [] => []
  | [v] => chars v
  | v :: vs => chars v ++ ',' :: itemChars vs

/-- Members with commas between them. -/
def memberChars : List (String × Json) → List Char
  | [] => []
  | [(k, v)] => stringText k ++ ':' :: chars v
  | (k, v) :: ms => stringText k ++ ':' :: chars v ++ ',' :: memberChars ms

end

/-- The compact text of a value. -/
def compact (v : Json) : String := String.ofList v.chars

end BackingServices.Json
