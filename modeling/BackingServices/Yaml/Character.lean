/-!
# Character classes of YAML

Five characters end a line: line feed, carriage return, next line, line
separator and paragraph separator.  The readable characters are those that may
stand in a stream.  The printable ones are those that a written stream shows as
they are; line separator and paragraph separator are printable, while tab,
carriage return and next line are not, so that text with them is written with
escapes.

Names of anchors and of tags consist of ASCII letters, digits, dashes and
underscores.  Tags may hold some more ASCII characters.
-/

namespace BackingServices.Yaml

/-- Whether a character ends a line. -/
def isBreak (c : Char) : Bool :=
  c == '\n' || c == '\r' || c == '\x85' || c == '\u2028' || c == '\u2029'

/-- Whether a character is a blank inside a line. -/
def isBlank (c : Char) : Bool := c == ' ' || c == '\t'

/-- Whether a character stands as it is in a written stream. -/
def isPrintable (c : Char) : Bool :=
  c == '\n' || (0x20 ≤ c.toNat && c.toNat ≤ 0x7E) ||
    (0xA0 ≤ c.toNat && c.toNat ≠ 0xFEFF && c.toNat ≠ 0xFFFE && c.toNat ≠ 0xFFFF)

/-- Whether a character may stand in a stream. -/
def isReadable (c : Char) : Bool :=
  c == '\t' || c == '\n' || c == '\r' || (0x20 ≤ c.toNat && c.toNat ≤ 0x7E) || c == '\x85' ||
    (0xA0 ≤ c.toNat && c.toNat ≠ 0xFFFE && c.toNat ≠ 0xFFFF)

/-- Whether a character has a meaning inside flow collections. -/
def isFlowIndicator (c : Char) : Bool :=
  c == ',' || c == '[' || c == ']' || c == '\x7b' || c == '\x7d'

/-- Whether a character is part of a name. -/
def isNameCharacter (c : Char) : Bool := c.isAlphanum || c == '_' || c == '-'

/-- Whether a character is part of a tag, which may hold commas and brackets if `verbatim`. -/
def isTagCharacter (verbatim : Bool) (c : Char) : Bool :=
  isNameCharacter c || ";/?:@&=+$.%!~*'()".toList.contains c ||
    (verbatim && (c == ',' || c == '[' || c == ']'))

/-- Whether a place in a text is followed by a blank, a line end or nothing. -/
def blankNext : List Char → Bool
  | [] => true
  | c :: _ => isBlank c || isBreak c

/-- So many spaces. -/
def spaces (n : Nat) : List Char := List.replicate n ' '

end BackingServices.Yaml
