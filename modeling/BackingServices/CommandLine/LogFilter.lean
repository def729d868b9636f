import BackingServices.Event
import BackingServices.Text.Pattern

/-!
# Which events are printed

A filter is a list of directives, which have commas between them.  A directive allows
the levels up to one of its own, as `target[span{field=value}]=level` says.

* The target is the beginning of the names of modules.
* In brackets stand the name of a span and fields that it has.  The value of a field is
  a pattern that must stand for an end of the field's text.
* The level is a name or a number.  Where it is missing, all levels are allowed.

A lone word is a level if it can be one, and a target otherwise.

A directive with a span or a field is *dynamic*: it allows events that happen inside
such a span, whatever their module.  A directive without a span, and without values
of fields, is *plain*: it allows events of its target that have its fields.  Of
the plain directives for an event only the most specific one counts.

A span is printed with the events in it if a dynamic directive is about it, or if an
event of its level would be allowed where it begins.  A span of a less important level
than any directive allows is not, unless a directive asks for the value of a field.
-/

namespace BackingServices.CommandLine

/-! ## Directives -/

/-- What is asked of the value of a field. -/
inductive FieldTest where
  /-- It is there. -/
  | any
  /-- It is a value that no text is: a number or a truth value. -/
  | noText
  /-- It is a text with an end that a pattern stands for. -/
  | pattern (p : Text.Pattern)
deriving DecidableEq

/-- What is asked of a field. -/
structure FieldFilter where
  /-- Its name. -/
  name : String
  /-- The value as it is written in the directive. -/
  written? : Option String
  /-- What is asked of its value. -/
  test : FieldTest
deriving DecidableEq

/-- A directive. -/
structure Directive where
  /-- The beginning of the names of modules. -/
  target? : Option String
  /-- The name of a span. -/
  span? : Option String
  /-- What is asked of fields. -/
  fields : List FieldFilter
  /-- The rank of the least important level that is allowed, or zero if none is. -/
  rank : Nat
deriving DecidableEq

namespace Directive

/-- Whether a directive is about spans. -/
def isDynamic (d : Directive) : Bool := d.span?.isSome || !d.fields.isEmpty

/-- Whether a directive asks for the value of a field. -/
def asksForValues (d : Directive) : Bool := d.fields.any fun f => f.test != .any

/-- Whether a directive is about events by themselves. -/
def isPlain (d : Directive) : Bool := d.span?.isNone && !d.asksForValues

/-- Whether a directive is about a module. -/
def isAbout (d : Directive) (source : String) : Bool :=
  d.target?.all fun target => target.toList.isPrefixOf source.toList

/-- Whether a directive has its fields among some names. -/
def findsFields (d : Directive) (names : List String) : Bool := d.fields.all fun f => names.contains f.name

end Directive

/-! ## Reading -/

namespace Directive

/-- The names of the levels, with their ranks. -/
def rankNames : List (String × Nat) :=
  [("", 1), ("off", 0), ("error", 1), ("warn", 2), ("info", 3), ("debug", 4), ("trace", 5)]

/-- The rank that digits give, with an optional sign before them. -/
def rankOfNumber? (cs : List Char) : Option Nat :=
  let digits := match cs with
    | '+' :: digits => digits
    | digits => digits
  if digits ≠ [] ∧ digits.all Char.isDigit then
    let n := digits.foldl (fun acc d => acc * 10 + (d.toNat - 48)) 0
    if n ≤ Level.trace.rank then some n else none
  else none

/-- The rank that a text gives. -/
def rank? (cs : List Char) : Option Nat :=
  (rankOfNumber? cs).or (rankNames.lookup (String.ofList (cs.map Char.toLower)))

/-- The rank that a text behind an equal sign gives. -/
def rankOrAll? (cs : List Char) : Option Nat := if cs = [] then some Level.trace.rank else rank? cs

/-- The digits at the beginning of some characters, and what is left behind them. -/
def digitsOf (cs : List Char) : List Char × List Char := (cs.takeWhile Char.isDigit, cs.dropWhile Char.isDigit)

/-- Whether some characters are an exponent or nothing. -/
def isExponent : List Char → Bool
  | [] => true
  | e :: cs =>
    let digits := match cs with
      | '+' :: digits | '-' :: digits => digits
      | digits => digits
    (e == 'e' || e == 'E') && digits != [] && digits.all Char.isDigit

/-- Whether some characters are a decimal number without a sign. -/
def isUnsignedNumber (cs : List Char) : Bool :=
  let (whole, cs) := digitsOf cs
  match cs with
  | '.' :: cs =>
    let (part, cs) := digitsOf cs
    (whole != [] || part != []) && isExponent cs
  | cs => whole != [] && isExponent cs

/-- Whether some characters are a number, infinite ones and no number at all among them. -/
def isNumber (cs : List Char) : Bool :=
  let cs := match cs with
    | '+' :: rest | '-' :: rest => rest
    | cs => cs
  isUnsignedNumber cs || ["inf", "infinity", "nan"].contains (String.ofList (cs.map Char.toLower))

/-- What a written value asks for. -/
def fieldTest? (s : String) : Option FieldTest :=
  if s = "true" ∨ s = "false" ∨ isNumber s.toList then some .noText
  else (Text.Pattern.ofText? s).map .pattern

/-- What the text of a field asks for.  What follows a second equal sign is passed over. -/
def field? (cs : List Char) : Option FieldFilter :=
  if cs = [] then none
  else
    match cs.splitOn '=' with
    | name :: value :: _ => do
      let written := String.ofList value
      return ⟨String.ofList name, some written, ← fieldTest? written⟩
    | _ => some ⟨String.ofList cs, none, .any⟩

/-- How far a directive is read. -/
inductive Stage where
  /-- At its beginning. -/
  | start
  /-- In a level or a target that began at an index. -/
  | word (start : Nat)
  /-- In the name of a span that began at an index. -/
  | span (start : Nat)
  /-- In a field that began at an index. -/
  | field (start : Nat)
  /-- Behind the fields. -/
  | fields
  /-- Behind the brackets. -/
  | brackets
  /-- In a level that began at an index. -/
  | level (start : Nat)
deriving DecidableEq

/-- The characters of a text between two indices. -/
def slice (text : List Char) (first last : Nat) : List Char := (text.take last).drop first

/-- Whether a directive may begin with a character. -/
def mayBegin (c : Char) : Bool := c == '-' || c == ':' || c == '_' || c.isAlphanum || 0x80 ≤ c.toNat

/-- Reads the character at an index.  The text may begin before the first character that is read. -/
def step (text : List Char) (i : Nat) (c : Char) (d : Directive) : Stage → Option (Directive × Stage)
  | .start =>
    if c = '[' then some (d, .span (i + 1)) else if mayBegin c then some (d, .word i) else none
  | .word start =>
    if c = '=' then some ({ d with target? := some (String.ofList (slice text start i)) }, .level (i + 1))
    else if c = '[' then
      some ({ d with target? := some (String.ofList (slice text start i)) }, .span (i + 1))
    else some (d, .word start)
  | .span start =>
    if c = ']' then some ({ d with span? := some (String.ofList (slice text start i)) }, .brackets)
    else if c = '\x7b' then
      let name := String.ofList (slice text start i)
      some ({ d with span? := if name = "" then none else some name }, .field (i + 1))
    else some (d, .span start)
  | .field start =>
    if c = '\x7d' then
      (field? (slice text start i)).map fun f => ({ d with fields := d.fields ++ [f] }, .fields)
    else some (d, .field start)
  | .fields => if c = ']' then some (d, .brackets) else none
  | .brackets => if c = '=' then some (d, .level (i + 1)) else none
  | .level start => some (d, .level start)

/-- Reads characters from an index on. -/
def steps (text : List Char) : Nat → List Char → Directive → Stage → Option (Directive × Stage)
  | _, [], d, stage => some (d, stage)
  | i, c :: cs, d, stage => do
    let (d, stage) ← step text i c d stage
    steps text (i + 1) cs d stage

/-- The directive at the end of its text. -/
def finish (text : List Char) (d : Directive) : Stage → Option Directive
  | .word start =>
    let word := text.drop start
    match rank? word with
    | some rank => some { d with rank }
    | none => some { d with target? := some (String.ofList word) }
  | .level start => (rankOrAll? (text.drop start)).map fun rank => { d with rank }
  | .brackets => some d
  | _ => none

/-- A text without the white space around it. -/
def trimmed (cs : List Char) : List Char :=
  ((cs.dropWhile Text.isBlank).reverse.dropWhile Text.isBlank).reverse

/-- The directive that a text gives.  White space around it does not count while its parts are found,
but they are cut out of the whole text. -/
def ofText? (cs : List Char) : Option Directive := do
  let (d, stage) ← steps cs 0 (trimmed cs) ⟨none, none, [], Level.trace.rank⟩ .start
  d.finish cs stage

end Directive

/-! ## Filters -/

/-- A filter. -/
abbrev LogFilter := List Directive

namespace LogFilter

/-- The filter that a text gives. -/
def ofText? (s : String) : Option LogFilter :=
  match (s.toList.splitOn ',').filter fun part => !part.isEmpty with
  | [] => some [⟨none, none, [], Level.error.rank⟩]
  | parts => parts.mapM Directive.ofText?

/-- The filter where nothing is said. -/
def standard : LogFilter := [⟨none, none, [], Level.info.rank⟩]

/-- The filter that a text gives, or the standard one if it gives none. -/
def ofText (s? : Option String) : LogFilter := (s?.bind ofText?).getD standard

/-- Whether some names come before others or are the same, in the order of a dictionary. -/
def inOrder : List String → List String → Bool
  | [], _ => true
  | _ :: _, [] => false
  | a :: as, b :: bs => a < b || (a == b && inOrder as bs)

/-- Whether a plain directive is at least as specific as another one: by the length of its target, the
number of its fields, and the order of their names. -/
def isAsSpecific (a b : Directive) : Bool :=
  let length := fun (d : Directive) => d.target?.elim 0 fun t => t.utf8ByteSize + 1
  let names := fun (d : Directive) => d.fields.map FieldFilter.name
  length b < length a ||
    (length a == length b &&
      (b.fields.length < a.fields.length ||
        (a.fields.length == b.fields.length && inOrder (names b) (names a))))

/-- The most specific of some plain directives; of equally specific ones the last. -/
def mostSpecific? (ds : List Directive) : Option Directive :=
  ds.foldl (fun best? d =>
    match best? with
    | some best => if isAsSpecific d best then some d else some best
    | none => some d) none

/-- Whether the plain directives allow a level of a module.  Fields are only asked for if they are given. -/
def allowsPlainly (filter : LogFilter) (source : String) (level : Level) (fields? : Option (List String)) :
    Bool :=
  let about := filter.filter fun d => d.isPlain && d.isAbout source && fields?.all d.findsFields
  (mostSpecific? about).any fun d => level.rank ≤ d.rank

/-- The rank of the least important level that the filter can ever allow. -/
def greatestRank (filter : LogFilter) : Nat :=
  if filter.any fun d => d.isDynamic && d.asksForValues then Level.trace.rank
  else filter.foldl (fun greatest d => max greatest d.rank) 0

/-- Whether a value passes a test. -/
def passes (value : FieldValue) : FieldTest → Bool
  | .any => true
  | .noText => false
  | .pattern p =>
    match value with
    | .text s | .shown s => p.endsText s
    | _ => false

/-- Whether a dynamic directive is about a span, apart from the values of its fields. -/
def isAboutSpan (d : Directive) (s : Span) : Bool :=
  d.isDynamic && d.isAbout s.source && d.span?.all (· == s.name) && d.findsFields (s.fields.map Field.name)

/-- Whether the fields of a span have the values that a directive asks for. -/
def hasValues (d : Directive) (s : Span) : Bool :=
  d.fields.all fun f => s.fields.any fun field => field.name == f.name && passes field.value f.test

/-- The rank that dynamic directives about a span allow in it, if there are any. -/
def rankInside? (filter : LogFilter) (s : Span) : Option Nat :=
  match filter.filter fun d => isAboutSpan d s with
  | [] => none
  | about => some ((about.filter fun d => hasValues d s).foldl (fun greatest d => max greatest d.rank) 0)

/-- What the spans around an event amount to. -/
structure Scope where
  /-- The spans that are printed. -/
  shown : List Span
  /-- The rank of the least important level that is allowed for their sake. -/
  rank : Nat

/-- The scope inside one more span. -/
def enter (filter : LogFilter) (scope : Scope) (s : Span) : Scope :=
  if filter.greatestRank < s.level.rank then scope
  else
    match filter.rankInside? s with
    | some rank => ⟨scope.shown ++ [s], max scope.rank rank⟩
    | none =>
      if s.level.rank ≤ scope.rank || filter.allowsPlainly s.source s.level none then
        { scope with shown := scope.shown ++ [s] }
      else scope

/-- The scope inside some spans, outermost first. -/
def scope (filter : LogFilter) (spans : List Span) : Scope := spans.foldl filter.enter ⟨[], 0⟩

/-- The spans as they are printed. -/
def spanText : List Span → String
  | [] => ""
  | shown => String.join (shown.map fun s => s.text ++ ":") ++ " "

/-- The names of an event's fields; the message is one. -/
def fieldNames (e : Event) : List String := "message" :: e.fields.map Field.name

/-- An event as it is printed, if it is. -/
def line? (filter : LogFilter) (e : Event) : Option String :=
  let scope := filter.scope e.spans
  if e.level.rank ≤ scope.rank || filter.allowsPlainly e.source e.level (some (fieldNames e)) then
    some (e.level.name ++ " " ++ spanText scope.shown ++ e.source ++ ": " ++ e.body)
  else none

/-- The events that are printed, each in a line. -/
def lines (filter : LogFilter) (events : List Event) : List String := events.filterMap filter.line?

end LogFilter

end BackingServices.CommandLine
