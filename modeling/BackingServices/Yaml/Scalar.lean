import BackingServices.Yaml.Resolve

/-!
# How a text is written

A text is written in one of four styles.

* Plain, as it is.
* Between single quotes, a single quote written twice.  A line separator or a
  paragraph separator ends the line, and the next line is indented.
* Between double quotes on one line, with escapes.
* As a literal block: an indicator, then every line of the text on a line of its
  own, indented.  The indicator says whether the indentation has to be counted
  because the text begins with a blank or a line end, and what becomes of the
  line ends at the end of the text.

`Style.ofText` chooses.  A text with a line feed wants the literal block; a text
that would not be read as a text wants single quotes; any other one wants to be
plain.  `Shape` holds what the text permits, and each style gives way to the
next quoted one when it is not permitted.

A text that is the key of a mapping is written in front of its colon if it is
short and has no line end, and never as a block then.
-/

namespace BackingServices.Yaml

/-! ## What a text permits -/

/-- The facts of a text that decide on its styles. -/
structure Shape where
  /-- It has line ends. -/
  multiline : Bool
  /-- It may be plain. -/
  plain : Bool
  /-- It may stand between single quotes. -/
  single : Bool
  /-- It may be a literal block. -/
  block : Bool
deriving DecidableEq

/-- Whether a text begins with the marks of a document's start or end. -/
def beginsWithMark : List Char → Bool
  | '-' :: '-' :: '-' :: _ => true
  | '.' :: '.' :: '.' :: _ => true
  | _ => false

/-- Whether the first character of a text keeps it from being plain. -/
def badFirst : List Char → Bool
  | [] => false
  | c :: cs =>
    "#,[]\x7b\x7d&*!|>'\"%@`".toList.contains c ||
      ((c == '?' || c == ':' || c == '-') && blankNext cs)

/-- Whether a later colon or hash keeps a text from being plain; `previous` goes before it. -/
def badLater (previous : Char) : List Char → Bool
  | [] => false
  | c :: cs =>
    (c == ':' && blankNext cs) || (c == '#' && (isBlank previous || isBreak previous)) ||
      badLater c cs

/-- Whether a character of the first class is directly followed by one of the second. -/
def hasPair (first second : Char → Bool) : List Char → Bool
  | a :: b :: cs => (first a && second b) || hasPair first second (b :: cs)
  | _ => false

/-- Whether a character is a space. -/
def isSpace (c : Char) : Bool := c == ' '

/-- What a text permits. -/
def shape (s : List Char) : Shape :=
  if s.isEmpty then ⟨false, true, true, false⟩
  else
    let first := s.head?
    let last := s.getLast?
    let lineEnds := s.any isBreak
    let spaceBreak := hasPair isSpace isBreak s
    let breakSpace := hasPair isBreak isSpace s
    let special := !s.all isPrintable
    let indicators := beginsWithMark s || badFirst s ||
      (match s with
      | [] => false
      | c :: cs => badLater c cs)
    { multiline := lineEnds
      plain := !(first.any isSpace || last.any isSpace || lineEnds || special || indicators)
      single := !(breakSpace || spaceBreak || special)
      block := !(last.any isSpace || spaceBreak || special) }

/-! ## The choice of a style -/

/-- The styles of a text. -/
inductive Style where
  /-- The text as it is. -/
  | plain
  /-- Between single quotes, which are written twice inside. -/
  | single
  /-- Between double quotes, with escapes. -/
  | double
  /-- A block of lines as they are. -/
  | literal
deriving DecidableEq

/-- The style that a text wants: a block for a line feed, single quotes where it would be taken for
something else. -/
def Style.wanted (s : String) : Style :=
  if s.toList.contains '\n' then .literal
  else if resolve s ≠ .text || hasNeedlessZero s.toList then .single
  else .plain

/-- The style of a text as a value, or of a key with a question mark in front. -/
def Style.ofText (s : String) : Style :=
  let shape := shape s.toList
  match wanted s with
  | .literal => if shape.block then .literal else .double
  | .plain => if shape.plain then .plain else if shape.single then .single else .double
  | .single => if shape.single then .single else .double
  | .double => .double

/-- The longest key in bytes that is written in front of its colon. -/
def simpleKeyLength : Nat := 128

/-- Whether a key is written in front of its colon. -/
def isSimpleKey (s : String) : Bool :=
  s.utf8ByteSize ≤ simpleKeyLength && !(shape s.toList).multiline

/-! ## Quotes -/

/-- A text between single quotes, its continued lines at a column.  `broken` says that a line has
just ended. -/
def singleBody (column : Nat) : Bool → List Char → List Char
  | broken, [] => if broken then spaces column else []
  | broken, c :: cs =>
    if isBreak c then c :: singleBody column true cs
    else
      (if broken then spaces column else []) ++
        (if c = '\'' then ['\'', '\''] else [c]) ++ singleBody column false cs

/-- A text between single quotes. -/
def singleQuoted (column : Nat) (s : List Char) : List Char :=
  '\'' :: singleBody column false s ++ ['\'']

/-- A natural as so many upper-case hexadecimal digits. -/
def upperHex (width n : Nat) : List Char :=
  let digits := (Nat.toDigits 16 n).map Char.toUpper
  List.replicate (width - digits.length) '0' ++ digits

/-- The letters of the escapes that have one. -/
def escapeLetters : List (Char × Char) := [
  ('\x00', '0'), ('\x07', 'a'), ('\x08', 'b'), ('\t', 't'), ('\n', 'n'), ('\x0b', 'v'),
  ('\x0c', 'f'), ('\r', 'r'), ('\x1b', 'e'), ('"', '"'), ('\\', '\\'), ('\x85', 'N'),
  ('\xa0', '_'), ('\u2028', 'L'), ('\u2029', 'P')]

/-- The escape of a character behind its backslash. -/
def escape (c : Char) : List Char :=
  match escapeLetters.lookup c with
  | some letter => [letter]
  | none =>
    if c.toNat ≤ 0xFF then 'x' :: upperHex 2 c.toNat
    else if c.toNat ≤ 0xFFFF then 'u' :: upperHex 4 c.toNat
    else 'U' :: upperHex 8 c.toNat

/-- One character between double quotes. -/
def doubleChar (c : Char) : List Char :=
  if !isPrintable c || isBreak c || c == '"' || c == '\\' then '\\' :: escape c else [c]

/-- A text between double quotes. -/
def doubleQuoted (s : List Char) : List Char := '"' :: s.flatMap doubleChar ++ ['"']

/-! ## Blocks -/

/-- The lines of a literal block at a column.  `fresh` says that a line has just ended. -/
def literalBody (column : Nat) : Bool → List Char → List Char
  | _, [] => []
  | fresh, c :: cs =>
    if isBreak c then c :: literalBody column true cs
    else (if fresh then spaces column else []) ++ c :: literalBody column false cs

/-- Whether the indentation of a block has to be given. -/
def needsIndentation (s : List Char) : Bool := s.head?.any fun c => isSpace c || isBreak c

/-- What the indicator says on the line ends at the end: none, one, or as many as there are. -/
def chomping (s : List Char) : List Char :=
  match s.reverse with
  | [] => ['-']
  | c :: cs =>
    if !isBreak c then ['-']
    else if cs.head?.all isBreak then ['+']
    else []

/-- The columns that a nested block is indented by. -/
def indentStep : Nat := 2

/-- A literal block with its lines at a column, up to its last line end. -/
def literal (column : Nat) (s : List Char) : List Char :=
  '|' :: (if needsIndentation s then Nat.toDigits 10 indentStep else []) ++ chomping s ++
    '\n' :: literalBody column true s ++ (if s.getLast?.all isBreak then [] else ['\n'])

/-! ## Texts in their places -/

/-- A text as a value with the line end behind it, its further lines at a column. -/
def textLine (column : Nat) (s : String) : List Char :=
  match Style.ofText s with
  | .plain => s.toList ++ ['\n']
  | .single => singleQuoted column s.toList ++ ['\n']
  | .double => doubleQuoted s.toList ++ ['\n']
  | .literal => literal column s.toList

/-- A simple key.  It has no line end and so is never a block. -/
def simpleKey (s : String) : List Char :=
  match Style.ofText s with
  | .plain => s.toList
  | .single => singleQuoted 0 s.toList
  | .double | .literal => doubleQuoted s.toList

end BackingServices.Yaml
