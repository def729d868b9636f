import BackingServices.Text.Hidden

/-!
# Quoted text

Text between double quotes, as diagnostics show it.  A quote and a backslash
are escaped by a backslash, NUL, tab, line feed and carriage return have letter
escapes, and every other character that does not show is written as its code
point in braces.  A single quote stands for itself.
-/

namespace BackingServices.Text

/-- The lower-case hexadecimal digits of a natural. -/
def hexDigits (n : Nat) : List Char := Nat.toDigits 16 n

/-- One character inside a quoted text. -/
def quotedChar (c : Char) : List Char :=
  if c = '"' then ['\\', '"']
  else if c = '\\' then ['\\', '\\']
  else if c = '\n' then ['\\', 'n']
  else if c = '\r' then ['\\', 'r']
  else if c = '\t' then ['\\', 't']
  else if c = '\x00' then ['\\', '0']
  else if isHidden c then ['\\', 'u', '\x7b'] ++ hexDigits c.toNat ++ ['\x7d']
  else [c]

/-- A text between double quotes. -/
def quoted (s : String) : String :=
  String.ofList ('"' :: s.toList.flatMap quotedChar ++ ['"'])

end BackingServices.Text
