import BackingServices.Yaml.Scalar

/-!
# YAML documents

A JSON value is written in block style.  A member of a mapping takes a line that
begins with its key, an element of a sequence one that begins with a dash.  Nested
blocks are two columns deeper, except that a sequence below a key stays at the
column of the key.  Behind a dash and behind a colon of its own line a nested
block begins on the same line.  Empty mappings and sequences are written as
brackets.

A key that is not simple gets a question mark in front, and its value a line of
its own that begins with a colon.
-/

namespace BackingServices.Yaml

/-- The text of a number. -/
def numberChars : Number → List Char
  | .integer n _ _ => integerText n
  | .real x => x.text layout

mutual

/-- What follows an indicator in a block at a column, up to its last line end.  Behind a simple key
a nested block begins on a line of its own. -/
def follow (column : Nat) (simple : Bool) : Json → List Char
  | .null => " null\n".toList
  | .bool b => (if b then " true\n" else " false\n").toList
  | .number n => ' ' :: numberChars n ++ ['\n']
  | .string s => ' ' :: textLine (column + indentStep) s
  | .array [] => " []\n".toList
  | .object [] => " \x7b\x7d\n".toList
  | .array (v :: vs) =>
    if simple then '\n' :: spaces column ++ elements column (v :: vs)
    else ' ' :: elements (column + indentStep) (v :: vs)
  | .object (m :: ms) =>
    if simple then '\n' :: spaces (column + indentStep) ++ entries (column + indentStep) (m :: ms)
    else ' ' :: entries (column + indentStep) (m :: ms)

/-- The elements of a sequence at a column, the first one without the indentation before it. -/
def elements (column : Nat) : List Json → List Char
  | [] => []
  | [v] => '-' :: follow column false v
  | v :: vs => '-' :: follow column false v ++ spaces column ++ elements column vs

/-- The members of a mapping at a column, the first one without the indentation before it. -/
def entries (column : Nat) : List (String × Json) → List Char
  | [] => []
  | [(key, v)] => keyed column key (isSimpleKey key) ++ follow column (isSimpleKey key) v
  | (key, v) :: ms =>
    keyed column key (isSimpleKey key) ++ follow column (isSimpleKey key) v ++ spaces column ++
      entries column ms

/-- A key of a mapping at a column with its colon. -/
def keyed (column : Nat) (key : String) : Bool → List Char
  | true => simpleKey key ++ [':']
  | false => '?' :: ' ' :: textLine (column + indentStep) key ++ spaces column ++ [':']

end

/-- The document of a value. -/
def document : Json → List Char
  | .string s => textLine indentStep s
  | .array (v :: vs) => elements 0 (v :: vs)
  | .object (m :: ms) => entries 0 (m :: ms)
  | v => (follow 0 false v).drop 1

/-- The text of a value's document. -/
def render (v : Json) : String := String.ofList (document v)

end BackingServices.Yaml
