/-!
# Text without terminal control

A terminal takes some characters for commands.  `withoutControl` drops them, so that
what is left is what the terminal would show as text.

* Control characters are dropped, but for tabulators, line feeds, form feeds and
  carriage returns.
* An escape sequence begins with an escape character and is dropped up to its final
  character.  Which one that is depends on the kind of sequence.
* White space among the control characters ends a sequence and stays, unless the
  sequence holds a string.
-/

namespace BackingServices.Text

/-- What has been read of an escape sequence. -/
inductive Sequence where
  /-- Nothing: the text is outside of sequences. -/
  | outside
  /-- The escape character. -/
  | escape
  /-- An escape character and what may stand before a final character. -/
  | escapeMiddle
  /-- The beginning of a control sequence. -/
  | control
  /-- The parameters of a control sequence. -/
  | controlParameter
  /-- What follows the parameters of a control sequence. -/
  | controlMiddle
  /-- A control sequence that is not well formed. -/
  | controlBroken
  /-- A command to the system, which a bell may end. -/
  | systemCommand
  /-- Another string, which nothing but a new sequence or a cancellation ends. -/
  | string
deriving DecidableEq

namespace Sequence

/-- Whether a sequence holds a string, in which control characters do not count. -/
def holdsString : Sequence → Bool
  | .systemCommand | .string => true
  | _ => false

/-- Whether a character is between two others. -/
def between (first last c : Char) : Bool := first ≤ c && c ≤ last

/-- What has been read with one more character, which is no control character. -/
def next (c : Char) : Sequence → Sequence
  | .outside => .outside
  | .escape =>
    if c = '[' then .control
    else if c = ']' then .systemCommand
    else if c = 'P' || c = 'X' || c = '^' || c = '_' then .string
    else if between ' ' '/' c then .escapeMiddle
    else if between '0' '~' c then .outside
    else .escape
  | .escapeMiddle => if between '0' '~' c then .outside else .escapeMiddle
  | .control =>
    if between '@' '~' c then .outside
    else if between ' ' '/' c then .controlMiddle
    else if between '0' '?' c then .controlParameter
    else .control
  | .controlParameter =>
    if between '@' '~' c then .outside
    else if between ' ' '/' c then .controlMiddle
    else if between '<' '?' c then .controlBroken
    else .controlParameter
  | .controlMiddle =>
    if between '@' '~' c then .outside
    else if between '0' '?' c then .controlBroken
    else .controlMiddle
  | .controlBroken => if between '@' '~' c then .outside else .controlBroken
  | .systemCommand => .systemCommand
  | .string => .string

end Sequence

/-- Whether a character is a control character of ASCII. -/
def isControl (c : Char) : Bool := c < ' ' || c == '\x7f'

/-- Whether a control character stays in a text. -/
def staysInText (c : Char) : Bool := c == '\t' || c == '\n' || c == '\x0c' || c == '\r'

/-- Reads characters where something of a sequence has been read. -/
def withoutControlFrom : Sequence → List Char → List Char
  | _, [] => []
  | s, c :: cs =>
    if c = '\x1b' then withoutControlFrom .escape cs
    else if c = '\x18' || c = '\x1a' then withoutControlFrom .outside cs
    else if isControl c then
      if s.holdsString then
        withoutControlFrom (if s = .systemCommand ∧ c = '\x07' then .outside else s) cs
      else if staysInText c then c :: withoutControlFrom .outside cs
      else withoutControlFrom s cs
    else if s = .outside then c :: withoutControlFrom .outside cs
    else withoutControlFrom (s.next c) cs

/-- A text without what a terminal takes for commands. -/
def withoutControl (s : String) : String := String.ofList (withoutControlFrom .outside s.toList)

end BackingServices.Text
