import BackingServices.Json.Schema
import BackingServices.Yaml.Value

/-!
# YAML values under a schema

A YAML value is read under the same schemas as a JSON value, and its normal form
is a JSON value.  Tags are passed over; only a choice may be given by a tag, and
a value that is kept as it is must not have one.  A record, a dictionary or a
list that is null is empty.  The fields of a record are found by keys that are
texts.
-/

namespace BackingServices

namespace Yaml.Value

/-- A value without its tags. -/
def untagged : Value → Value
  | .tagged _ v => v.untagged
  | v => v

/-- What a value is found to be. -/
def found : Value → Found
  | .null => .nothing
  | .bool b => .flag b
  | .number (.integer n _ _) => .integer n
  | .number (.real x) => .real x
  | .infinite negative => .notFinite (if negative then "-inf" else "inf")
  | .notANumber => .notFinite "NaN"
  | .string s => .text s
  | .sequence _ => .sequence
  | .mapping _ => .map
  | .tagged _ _ => .tagged

/-- The text that a key is, where something was expected. -/
def keyText (expected : String) (v : Value) : Except DecodeError String :=
  match v.untagged with
  | .string s => .ok s
  | v => .error (.wrongType v.found expected)

mutual

/-- The JSON value that is kept of a value.  A double that is not finite becomes null. -/
def kept : Value → Except DecodeError Json
  | .null => .ok .null
  | .bool b => .ok (.bool b)
  | .number n => .ok (.number n)
  | .infinite _ | .notANumber => .ok .null
  | .string s => .ok (.string s)
  | .sequence items => do .ok (.array (← keptItems items))
  | .mapping members => do .ok (Json.ofMembers (← keptMembers "a string key" members))
  | .tagged _ _ => .error (.wrongType .tagged "any valid JSON value")

/-- What is kept of the values of a sequence. -/
def keptItems : List Value → Except DecodeError (List Json)
  | [] => .ok []
  | v :: vs => do .ok ((← kept v) :: (← keptItems vs))

/-- What is kept of the members of a mapping, where the first key is expected to be something. -/
def keptMembers (expected : String) : List (Value × Value) → Except DecodeError (List (String × Json))
  | [] => .ok []
  | (k, v) :: ms => do
    let key ← keyText expected k
    .ok ((key, ← kept v) :: (← keptMembers "a string" ms))

end

/-- Reads one of some words, which may be given by a tag of null. -/
def readChoice (words : List String) : Value → Except DecodeError Json
  | .string s => BackingServices.readChoice words s
  | .tagged tag content => do
    let word ← BackingServices.readChoice words (bareTag tag)
    match content with
    | .null => .ok word
    | v => .error (.wrongType v.found "unit")
  | v => .error (.wrongType v.found "a Value::Tagged enum")

end Yaml.Value

open Yaml (Value)

mutual

/-- The normal form of a YAML value under a schema. -/
def Schema.readYaml : Schema → Value → Except DecodeError Json
  | .ignored, _ => .ok .null
  | .anything, v => v.kept
  | .choice words, v => v.readChoice words
  | .optional _, .null => .ok .null
  | .optional s, v => s.readYaml v
  | .text, v =>
    match v.untagged with
    | .string s => .ok (.string s)
    | v => .error (.wrongType v.found Schema.text.describe)
  | .flag, v =>
    match v.untagged with
    | .bool b => .ok (.bool b)
    | v => .error (.wrongType v.found Schema.flag.describe)
  | .integer name least greatest, v =>
    match v.untagged with
    | .number n => readInteger name least greatest n
    | v => .error (.wrongType v.found name)
  | .constant value, v =>
    match v.untagged with
    | .string s => readConstant value s
    | v => .error (.wrongType v.found (Schema.constant value).describe)
  | .instant, v =>
    match v.untagged with
    | .string s => readInstant s
    | v => .error (.wrongType v.found Schema.instant.describe)
  | .list s, v =>
    match v.untagged with
    | .sequence items => do .ok (.array (← items.mapM fun v => s.readYaml v))
    | .null => .ok (.array [])
    | v => .error (.wrongType v.found (Schema.list s).describe)
  | .dictionary s, v =>
    match v.untagged with
    | .mapping members => do
      .ok (Json.ofMembers (← members.mapM fun (k, v) => do
        .ok (← k.keyText Schema.text.describe, ← s.readYaml v)))
    | .null => .ok (.object [])
    | v => .error (.wrongType v.found (Schema.dictionary s).describe)
  | .record form name fields, v =>
    match v.untagged with
    | .mapping members => do
      let read ← members.foldlM (fun read (k, v) => do
        let key ← k.keyText "field identifier"
        if (fields.schema? key).isSome ∧ (read.lookup key).isSome then .error (.duplicate key)
        else .ok (read ++ (← fields.readYamlMember key v).toList)) []
      .ok (Json.ofMembers (← fields.finish read))
    | .null => do .ok (Json.ofMembers (← fields.finish []))
    | v => .error (.wrongType v.found (form.describe name))

/-- The member of a known field, read; nothing for an unknown one. -/
def Fields.readYamlMember : Fields → String → Value → Except DecodeError (Option (String × Json))
  | .nil, _, _ => .ok none
  | .cons name _ schema rest, key, v =>
    if name = key then do .ok (some (key, ← schema.readYaml v)) else rest.readYamlMember key v

end

end BackingServices
