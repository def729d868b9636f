import BackingServices.Json.Schema

/-!
# Places in a text

A `Cursor` is the place in a text that reading has reached.  A fault carries the line and
the column where it was noticed, the column counted in bytes.

A `Reading` moves the cursor.  It keeps the cursor also when it fails, which is what the
faults that have no place of their own need.
-/

namespace BackingServices

/-- A place in a text: what follows it, its line, and the bytes before it in that line. -/
structure Cursor where
  /-- The characters that follow. -/
  rest : List Char
  /-- The line, counted from one. -/
  line : Nat
  /-- The bytes of the line before the place. -/
  column : Nat
deriving Inhabited

namespace Cursor

/-- The start of a text. -/
def start (text : List Char) : Cursor := ⟨text, 1, 0⟩

/-- The place behind the next character. -/
def advance (c : Cursor) : Cursor :=
  match c.rest with
  | [] => c
  | x :: xs => if x = '\n' then ⟨xs, c.line + 1, 0⟩ else ⟨xs, c.line, c.column + x.utf8Size⟩

/-- The position of the place. -/
def position (c : Cursor) : Nat × Nat := (c.line, c.column)

/-- The position behind some more bytes, which may end inside a character. -/
def positionBehind : Nat → List Char → Nat → Nat → Nat × Nat
  | _, [], line, column => (line, column)
  | bytes, x :: xs, line, column =>
    if bytes = 0 then (line, column)
    else if x = '\n' then positionBehind (bytes - 1) xs (line + 1) 0
    else positionBehind (bytes - x.utf8Size) xs line (column + min bytes x.utf8Size)

/-- The position behind the next byte. -/
def nextPosition (c : Cursor) : Nat × Nat := positionBehind 1 c.rest c.line c.column

end Cursor

/-- A refusal and the place it was noticed at, once that is known. -/
structure PlacedError where
  /-- The refusal. -/
  error : DecodeError
  /-- Line and column. -/
  at? : Option (Nat × Nat)

/-- The wording of a refusal with its place. -/
def PlacedError.message (e : PlacedError) : String :=
  let text := e.error.message .json
  match e.at? with
  | none => text
  | some (line, column) => s!"{text} at line {line} column {column}"

/-- A reader of a text. -/
abbrev Reading := EStateM PlacedError Cursor

namespace Reading

/-! ## Single characters and places -/

/-- The next character, which stays. -/
def peek : Reading (Option Char) := do return (← get).rest.head?

/-- Passes the next character. -/
def skip : Reading Unit := modify Cursor.advance

/-- Takes the next character. -/
def next : Reading (Option Char) := do
  let c ← peek
  skip
  return c

/-- Fails at the place that is reached. -/
def failHere {α : Type} (how : Malformed) : Reading α := do
  throw ⟨.malformed how, some (← get).position⟩

/-- Fails at the next byte. -/
def failNext {α : Type} (how : Malformed) : Reading α := do
  throw ⟨.malformed how, some (← get).nextPosition⟩

/-- Fails for a reason whose place the enclosing bracket settles. -/
def failLater {α : Type} (error : DecodeError) : Reading α := throw ⟨error, none⟩

/-- A reader whose failure, if it has no place yet, takes the place that is reached. -/
def placed {α : Type} (r : Reading α) : Reading α := fun c =>
  match r c with
  | .error e c' => .error ⟨e.error, e.at?.or (some c'.position)⟩ c'
  | .ok v c' => .ok v c'

/-- A reader followed by the close of its bracket.  The close is attempted even if the reader
fails, and then only moves the place. -/
def closedBy {α : Type} (body : Reading α) (close : Reading Unit) : Reading α := fun c =>
  match body c with
  | .ok v c' =>
    match close c' with
    | .ok _ c'' => .ok v c''
    | .error e c'' => .error e c''
  | .error e c' =>
    match close c' with
    | .ok _ c'' => .error e c''
    | .error _ c'' => .error e c''

/-- Whether a character is a blank of JSON. -/
def isBlank (c : Char) : Bool := c = ' ' || c = '\n' || c = '\t' || c = '\r'

/-- Passes blanks, with so much fuel. -/
def skipBlanksFuel : Nat → Cursor → Cursor
  | 0, c => c
  | n + 1, c =>
    match c.rest with
    | x :: _ => if isBlank x then skipBlanksFuel n c.advance else c
    | [] => c

/-- Passes blanks and gives the next character, which stays. -/
def peekValue : Reading (Option Char) := do
  modify fun c => skipBlanksFuel c.rest.length c
  peek

/-- Takes the rest of a word. -/
def word : List Char → Reading Unit
  | [] => pure ()
  | c :: cs => do
    match ← peek with
    | none => failHere .endInValue
    | some d =>
      if c = d then
        skip
        word cs
      else failNext .badWord

end Reading

end BackingServices
