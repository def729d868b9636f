import BackingServices.Text.Quoted

/-!
# Log events

An event has a level, the module it comes from, a message and some fields.  It happens
inside the spans that are open, outermost first.  A span has a name, fields, a level
and a module.  A field of a span may still be without a value.

Printed text must not drive a terminal: the control characters of a message that could
do so are written as escapes.  Those that only move on in the text stay as they are.
-/

namespace BackingServices

/-! ## Levels -/

/-- How important an event is. -/
inductive Level where
  /-- Something went wrong. -/
  | error
  /-- Something may go wrong. -/
  | warn
  /-- Something happened. -/
  | info
  /-- A detail for those who look for a mistake. -/
  | debug
  /-- A detail of every step. -/
  | trace
deriving DecidableEq

/-- The rank of a level; the more important, the lower. -/
def Level.rank : Level → Nat
  | .error => 1
  | .warn => 2
  | .info => 3
  | .debug => 4
  | .trace => 5

/-- The name of a level. -/
def Level.name : Level → String
  | .error => "ERROR"
  | .warn => "WARN"
  | .info => "INFO"
  | .debug => "DEBUG"
  | .trace => "TRACE"

/-! ## Fields and spans -/

/-- The value of a field. -/
inductive FieldValue where
  /-- There is none yet. -/
  | unknown
  /-- A text, which is printed in quotes. -/
  | text (s : String)
  /-- Something that is printed as it is. -/
  | shown (s : String)
  /-- A number. -/
  | number (n : Nat)
deriving DecidableEq

/-- The value as it is printed, if there is one. -/
def FieldValue.print? : FieldValue → Option String
  | .unknown => none
  | .text s => some (Text.quoted s)
  | .shown s => some s
  | .number n => some (toString n)

/-- A field of a span or an event. -/
structure Field where
  /-- Its name. -/
  name : String
  /-- Its value. -/
  value : FieldValue
deriving DecidableEq

/-- The field as it is printed, if it has a value. -/
def Field.print? (f : Field) : Option String := f.value.print?.map fun s => f.name ++ "=" ++ s

/-- A stretch of work that events happen in. -/
structure Span where
  /-- Its name. -/
  name : String
  /-- Its fields. -/
  fields : List Field
  /-- Its level. -/
  level : Level
  /-- The module it belongs to. -/
  source : String
deriving DecidableEq

/-- The span as it is printed, with its fields in braces. -/
def Span.text (s : Span) : String :=
  match s.fields.filterMap Field.print? with
  | [] => s.name
  | shown => s.name ++ "\x7b" ++ " ".intercalate shown ++ "\x7d"

/-! ## Events -/

/-- Something that is logged. -/
structure Event where
  /-- Its level. -/
  level : Level
  /-- The spans it happens in, outermost first. -/
  spans : List Span
  /-- The module it comes from. -/
  source : String
  /-- What it says. -/
  message : String
  /-- Its fields. -/
  fields : List Field
deriving DecidableEq

namespace Event

/-- An event outside all spans, without fields. -/
def plain (level : Level) (source message : String) : Event := ⟨level, [], source, message, []⟩

/-- An event moved into a span. -/
def within (span : Span) (e : Event) : Event := { e with spans := span :: e.spans }

/-- The event without its spans, its module and its fields. -/
def text (e : Event) : String := e.level.name ++ " " ++ e.message

/-- A character that may drive a terminal as an escape, and any other one as it is. -/
def escapedChar (c : Char) : List Char :=
  if c = '\x07' then ['\\', 'x', '0', '7']
  else if c = '\x08' then ['\\', 'x', '0', '8']
  else if c = '\x0c' then ['\\', 'x', '0', 'c']
  else if c = '\x1b' then ['\\', 'x', '1', 'b']
  else if c = '\x7f' then ['\\', 'x', '7', 'f']
  else if 0x80 ≤ c.toNat ∧ c.toNat ≤ 0x9f then ['\\', 'u', '\x7b'] ++ Text.hexDigits c.toNat ++ ['\x7d']
  else [c]

/-- The message and the fields as they are printed. -/
def body (e : Event) : String :=
  " ".intercalate (String.ofList (e.message.toList.flatMap escapedChar) :: e.fields.filterMap Field.print?)

end Event

end BackingServices
