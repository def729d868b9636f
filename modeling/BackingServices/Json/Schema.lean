import BackingServices.Json.Basic
import BackingServices.Timestamp

/-!
# Schemas: which documents are accepted

A schema says how a value is read: what it must be and which parts of it are
kept.  Reading gives the *normal form* of the document, a JSON value in which
unknown fields are dropped, absent optional fields and null ones are identified
by being left out, and fields with a default are filled in.

Records come in three forms.  A *positional* record may also be written as the
sequence of its fields and refuses a field given twice.  A *keyed* record
refuses a sequence and takes the last value of a field given twice.  An *entry*
refuses both, and null counts as an entry without fields.  All of them ignore the
fields they do not know.

Here a schema reads a JSON value.  Its reading of a text, where faults have a
position, is in `BackingServices.Json.Document`.
-/

namespace BackingServices

/-! ## What is wrong with a document -/

/-- A piece of a document that was found where something else was expected. -/
inductive Found where
  /-- Nothing: the null value. -/
  | nothing
  /-- A truth value. -/
  | flag (value : Bool)
  /-- An integer. -/
  | integer (value : Int)
  /-- A double. -/
  | real (value : Binary64)
  /-- A double that is not finite, by its name. -/
  | notFinite (name : String)
  /-- A text. -/
  | text (value : String)
  /-- A sequence of values. -/
  | sequence
  /-- Values by key. -/
  | map
  /-- A value with a tag. -/
  | tagged
deriving DecidableEq

/-- What a JSON value is found to be. -/
def Json.found : Json → Found
  | .null => .nothing
  | .bool b => .flag b
  | .number (.integer n _ _) => .integer n
  | .number (.real x) => .real x
  | .string s => .text s
  | .array _ => .sequence
  | .object _ => .map

/-- How a document format words what was found. -/
structure Wording where
  /-- The null value. -/
  nothing : String
  /-- How doubles are laid out. -/
  real : Decimal.Layout

/-- The wording for JSON documents. -/
def Wording.json : Wording := ⟨"null", Number.layout⟩

/-- The wording for YAML documents, where doubles are never in scientific notation. -/
def Wording.yaml : Wording := ⟨"unit value", ⟨-400, 400, ""⟩⟩

/-- What was found, in words. -/
def Found.describe (w : Wording) : Found → String
  | .nothing => w.nothing
  | .flag b => "boolean `" ++ (if b then "true" else "false") ++ "`"
  | .integer n => "integer `" ++ String.ofList (integerText n) ++ "`"
  | .real x => "floating point `" ++ String.ofList (x.text w.real) ++ "`"
  | .notFinite name => "floating point `" ++ name ++ "`"
  | .text s => "string " ++ Text.quoted s
  | .sequence => "sequence"
  | .map => "map"
  | .tagged => "enum"

/-- How a text fails to be a JSON text. -/
inductive Malformed where
  /-- It ends inside a sequence. -/
  | endInList
  /-- It ends inside a map. -/
  | endInObject
  /-- It ends inside a string. -/
  | endInString
  /-- It ends where a value is expected, or inside a word or number. -/
  | endInValue
  /-- A key has no colon behind it. -/
  | noColon
  /-- A sequence neither goes on nor ends. -/
  | noCommaInList
  /-- A map neither goes on nor ends. -/
  | noCommaInObject
  /-- A word is none of the three that are known. -/
  | badWord
  /-- A character begins no value. -/
  | noValue
  /-- An escape is not known. -/
  | badEscape
  /-- A number is not well formed. -/
  | badNumber
  /-- A number is too large for a double. -/
  | numberTooLarge
  /-- A string holds a control character as it is. -/
  | controlCharacter
  /-- A key is not a string. -/
  | keyNotText
  /-- One half of a surrogate pair stands alone. -/
  | loneSurrogate
  /-- No escape follows the first half of a surrogate pair. -/
  | brokenSurrogate
  /-- A comma is followed by a closing bracket. -/
  | trailingComma
  /-- Something follows the value. -/
  | trailingCharacters
  /-- Brackets are nested too deep. -/
  | tooDeep
deriving DecidableEq

/-- The wording of a malformed text. -/
def Malformed.message : Malformed → String
  | .endInList => "EOF while parsing a list"
  | .endInObject => "EOF while parsing an object"
  | .endInString => "EOF while parsing a string"
  | .endInValue => "EOF while parsing a value"
  | .noColon => "expected `:`"
  | .noCommaInList => "expected `,` or `]`"
  | .noCommaInObject => "expected `,` or `\x7d`"
  | .badWord => "expected ident"
  | .noValue => "expected value"
  | .badEscape => "invalid escape"
  | .badNumber => "invalid number"
  | .numberTooLarge => "number out of range"
  | .controlCharacter => "control character (\\u0000-\\u001F) found while parsing a string"
  | .keyNotText => "key must be a string"
  | .loneSurrogate => "lone leading surrogate in hex escape"
  | .brokenSurrogate => "unexpected end of hex escape"
  | .trailingComma => "trailing comma"
  | .trailingCharacters => "trailing characters"
  | .tooDeep => "recursion limit exceeded"

/-- Why a document is refused. -/
inductive DecodeError where
  /-- The text is no JSON text. -/
  | malformed (how : Malformed)
  /-- A value of another type was expected. -/
  | wrongType (found : Found) (expected : String)
  /-- A value of the right type was expected to be another one. -/
  | wrongValue (found : Found) (expected : String)
  /-- A sequence has another length than expected. -/
  | wrongLength (found : Nat) (expected : String)
  /-- A required field is missing. -/
  | missing (field : String)
  /-- A field is given twice. -/
  | duplicate (field : String)
  /-- A text is none of some words. -/
  | unknownChoice (found : String) (choices : List String)
  /-- A text is no point in time. -/
  | badInstant (fault : Timestamp.Fault)
deriving DecidableEq

/-- The wording of a refusal. -/
def DecodeError.message (w : Wording) : DecodeError → String
  | .malformed how => how.message
  | .wrongType found expected => "invalid type: " ++ found.describe w ++ ", expected " ++ expected
  | .wrongValue found expected => "invalid value: " ++ found.describe w ++ ", expected " ++ expected
  | .wrongLength found expected => s!"invalid length {found}, expected {expected}"
  | .missing field => s!"missing field `{field}`"
  | .duplicate field => s!"duplicate field `{field}`"
  | .unknownChoice found choices =>
    s!"unknown variant `{found}`, expected one of " ++
      ", ".intercalate (choices.map fun choice => s!"`{choice}`")
  | .badInstant fault => fault.message

/-! ## Schemas -/

/-- The three forms of records. -/
inductive Form where
  /-- May be a sequence; no field twice. -/
  | positional
  /-- Always by key; the last value of a field counts. -/
  | keyed
  /-- Always by key or null; no field twice. -/
  | entry
deriving DecidableEq

/-- What becomes of a field that is not there. -/
inductive Presence where
  /-- It must be there. -/
  | required
  /-- This value stands for it; null leaves it out. -/
  | absent (value : Json)

mutual

/-- How a value of a document is read. -/
inductive Schema where
  /-- Any value, which is dropped. -/
  | ignored
  /-- Any value, which is kept. -/
  | anything
  /-- A text. -/
  | text
  /-- A truth value. -/
  | flag
  /-- An integer between two bounds. -/
  | integer (name : String) (least greatest : Int)
  /-- One given text. -/
  | constant (value : String)
  /-- One of some words. -/
  | choice (words : List String)
  /-- A point in time. -/
  | instant
  /-- Null or a value. -/
  | optional (of : Schema)
  /-- A sequence of values. -/
  | list (of : Schema)
  /-- Values by arbitrary keys. -/
  | dictionary (of : Schema)
  /-- Values by known keys. -/
  | record (form : Form) (name : String) (fields : Fields)

/-- The known fields of a record, in order. -/
inductive Fields where
  /-- No field. -/
  | nil
  /-- A field before others. -/
  | cons (name : String) (presence : Presence) (schema : Schema) (rest : Fields)

end

/-- What a record is called where another thing was found. -/
def Form.describe (name : String) : Form → String
  | .positional | .entry => "struct " ++ name
  | .keyed => name

/-- How many fields there are. -/
def Fields.count : Fields → Nat
  | .nil => 0
  | .cons _ _ _ rest => rest.count + 1

/-- The schema of a field, if it is known. -/
def Fields.schema? (key : String) : Fields → Option Schema
  | .nil => none
  | .cons name _ schema rest => if name = key then some schema else rest.schema? key

/-- Whether a missing field of this schema is simply left out. -/
def Schema.isOptional : Schema → Bool
  | .optional _ => true
  | _ => false

/-- What a schema expects, in words. -/
def Schema.describe : Schema → String
  | .ignored | .anything => "any value"
  | .text | .constant _ | .choice _ => "a string"
  | .flag => "a boolean"
  | .integer name _ _ => name
  | .instant => "an RFC 3339 formatted date and time string"
  | .optional _ => "option"
  | .list _ => "a sequence"
  | .dictionary _ => "a map"
  | .record form name _ => form.describe name

/-- The expectation of a positional record on the length of a sequence. -/
def lengthExpectation (name : String) (count : Nat) : String :=
  s!"struct {name} with {count} element" ++ (if count = 1 then "" else "s")

/-- The value read for a field, the last one if there are several. -/
def lastRead? (key : String) : List (String × Json) → Option Json
  | [] => none
  | (k, v) :: rest => (lastRead? key rest).or (if k = key then some v else none)

/-- The members of a record's normal form from the fields that were read, in the order of the
schema.  A field read as null counts as absent. -/
def Fields.finish (read : List (String × Json)) : Fields → Except DecodeError (List (String × Json))
  | .nil => .ok []
  | .cons name presence schema rest =>
    match lastRead? name read, presence with
    | none, .required =>
      if schema.isOptional then finish read rest else .error (.missing name)
    | some .null, .required => finish read rest
    | none, .absent .null | some .null, .absent .null => finish read rest
    | none, .absent value | some .null, .absent value => do .ok ((name, value) :: (← finish read rest))
    | some value, _ => do .ok ((name, value) :: (← finish read rest))

/-! ## Leaves -/

/-- Reads an integer between two bounds. -/
def readInteger (name : String) (least greatest : Int) (n : Number) : Except DecodeError Json :=
  match n with
  | .integer value _ _ =>
    if least ≤ value ∧ value ≤ greatest then .ok (.number n)
    else .error (.wrongValue (.integer value) name)
  | .real x => .error (.wrongType (.real x) name)

/-- Reads a given text. -/
def readConstant (expected found : String) : Except DecodeError Json :=
  if found = expected then .ok .null else .error (.wrongValue (.text found) expected)

/-- Reads one of some words. -/
def readChoice (words : List String) (found : String) : Except DecodeError Json :=
  if found ∈ words then .ok (.string found) else .error (.unknownChoice found words)

/-- Reads a point in time. -/
def readInstant (s : String) : Except DecodeError Json :=
  match Timestamp.normalise? s with
  | .ok t => .ok (.string t)
  | .error fault => .error (.badInstant fault)

/-! ## Reading a value -/

mutual

/-- The normal form of a value under a schema. -/
def Schema.read : Schema → Json → Except DecodeError Json
  | .ignored, _ => .ok .null
  | .anything, v => .ok v
  | .text, .string s => .ok (.string s)
  | .flag, .bool b => .ok (.bool b)
  | .integer name least greatest, .number n => readInteger name least greatest n
  | .constant value, .string s => readConstant value s
  | .choice words, .string s => readChoice words s
  | .instant, .string s => readInstant s
  | .optional _, .null => .ok .null
  | .optional s, v => s.read v
  | .list s, .array items => do .ok (.array (← items.mapM fun v => s.read v))
  | .dictionary s, .object members => do
    .ok (Json.ofMembers (← members.mapM fun (k, v) => do .ok (k, ← s.read v)))
  | .record _ _ fields, .object members => do
    let read ← members.filterMapM fun (k, v) => fields.readMember k v
    .ok (Json.ofMembers (← fields.finish read))
  | .record .positional name fields, .array items => do
    let read ← fields.readItems (lengthExpectation name fields.count) 0 items
    if fields.count < items.length then
      .error (.wrongLength items.length "fewer elements in array")
    else .ok (Json.ofMembers (← fields.finish read))
  | .record .entry _ fields, .null => do .ok (Json.ofMembers (← fields.finish []))
  | s, v => .error (.wrongType v.found s.describe)

/-- The member of a known field, read; nothing for an unknown one. -/
def Fields.readMember : Fields → String → Json → Except DecodeError (Option (String × Json))
  | .nil, _, _ => .ok none
  | .cons name _ schema rest, key, v =>
    if name = key then do .ok (some (key, ← schema.read v)) else rest.readMember key v

/-- The fields of a record written as a sequence, from the index of the first on. -/
def Fields.readItems (expectation : String) :
    Fields → Nat → List Json → Except DecodeError (List (String × Json))
  | .nil, _, _ => .ok []
  | .cons name _ schema rest, index, v :: vs => do
    let value ← schema.read v
    .ok ((name, value) :: (← rest.readItems expectation (index + 1) vs))
  | .cons name (.absent default) schema rest, index, [] =>
    if schema.isOptional then .error (.wrongLength index expectation)
    else do .ok ((name, default) :: (← rest.readItems expectation (index + 1) []))
  | .cons _ .required _ _, index, [] => .error (.wrongLength index expectation)

end

end BackingServices
