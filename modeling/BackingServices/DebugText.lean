import BackingServices.Text.Quoted

/-!
# Diagnostic text of a value

A value shows itself for diagnostics as a tree: leaves of fixed text, records
with named fields, wrappers around unnamed ones, sequences and maps.  The tree
has two layouts.  The plain one is a single line.  The spread one gives every
member a line of its own, four spaces deeper than the line that opens it, with
a comma behind every member; leaves and empty brackets stay on their line.

A record may be open: it ends in two points, for members that are kept to
itself.
-/

namespace BackingServices

/-- The tree of a value's diagnostic text. -/
inductive DebugText where
  /-- A text that stands for itself. -/
  | leaf (text : String)
  /-- A name and named fields in braces, with two points at the end if it is open. -/
  | record (name : String) (fields : List (String × DebugText)) (isOpen : Bool)
  /-- A name and unnamed members in parentheses. -/
  | wrapper (name : String) (items : List DebugText)
  /-- A name and members in square brackets. -/
  | sequence (name : String) (items : List DebugText)
  /-- A name and pairs of a quoted key and a value in braces. -/
  | map (name : String) (entries : List (String × DebugText))

namespace DebugText

/-- A text between quotes. -/
def quoted (s : String) : DebugText := .leaf (Text.quoted s)

/-- A value that may be absent. -/
def option : Option DebugText → DebugText
  | none => .leaf "None"
  | some d => .wrapper "Some" [d]

/-! ## One line -/

/-- Parts of a line, separated by commas. -/
def joinComma (parts : List String) : String := ", ".intercalate parts

mutual

/-- The layout on one line. -/
def plain : DebugText → String
  | .leaf text => text
  | .record name fields isOpen =>
    let parts := plainFields fields ++ (if isOpen then [".."] else [])
    if parts.isEmpty then name else name ++ " \x7b " ++ joinComma parts ++ " \x7d"
  | .wrapper name items => name ++ "(" ++ joinComma (plainItems items) ++ ")"
  | .sequence name items => name ++ "[" ++ joinComma (plainItems items) ++ "]"
  | .map name entries => name ++ "\x7b" ++ joinComma (plainEntries entries) ++ "\x7d"

/-- The members of a sequence, each on one line. -/
def plainItems : List DebugText → List String
  | [] => []
  | d :: ds => plain d :: plainItems ds

/-- Named fields, each on one line. -/
def plainFields : List (String × DebugText) → List String
  | [] => []
  | (name, d) :: fs => (name ++ ": " ++ plain d) :: plainFields fs

/-- Pairs of a map, each on one line. -/
def plainEntries : List (String × DebugText) → List String
  | [] => []
  | (key, d) :: es => (Text.quoted key ++ ": " ++ plain d) :: plainEntries es

end

/-! ## One member to a line -/

/-- The line break and the spaces of a depth. -/
def newLine (depth : Nat) : String := String.ofList ('\n' :: List.replicate (4 * depth) ' ')

/-- Members between brackets, one to a line. -/
def spreadMembers (depth : Nat) (opening : String) (members : List String) (last : String)
    (closing : String) : String :=
  opening ++ String.join (members.map fun m => newLine (depth + 1) ++ m ++ ",") ++ last
    ++ newLine depth ++ closing

mutual

/-- The layout with one member to a line, for a value that begins at a depth. -/
def spread (depth : Nat) : DebugText → String
  | .leaf text => text
  | .record name fields isOpen =>
    if fields.isEmpty && !isOpen then name
    else spreadMembers depth (name ++ " \x7b") (spreadFields (depth + 1) fields)
      (if isOpen then newLine (depth + 1) ++ ".." else "") "\x7d"
  | .wrapper name items => spreadMembers depth (name ++ "(") (spreadItems (depth + 1) items) "" ")"
  | .sequence name items =>
    if items.isEmpty then name ++ "[]"
    else spreadMembers depth (name ++ "[") (spreadItems (depth + 1) items) "" "]"
  | .map name entries =>
    if entries.isEmpty then name ++ "\x7b\x7d"
    else spreadMembers depth (name ++ "\x7b") (spreadEntries (depth + 1) entries) "" "\x7d"

/-- The members of a sequence at a depth. -/
def spreadItems (depth : Nat) : List DebugText → List String
  | [] => []
  | d :: ds => spread depth d :: spreadItems depth ds

/-- Named fields at a depth. -/
def spreadFields (depth : Nat) : List (String × DebugText) → List String
  | [] => []
  | (name, d) :: fs => (name ++ ": " ++ spread depth d) :: spreadFields depth fs

/-- Pairs of a map at a depth. -/
def spreadEntries (depth : Nat) : List (String × DebugText) → List String
  | [] => []
  | (key, d) :: es => (Text.quoted key ++ ": " ++ spread depth d) :: spreadEntries depth es

end

/-- The diagnostic text in the layout asked for. -/
def render (pretty : Bool) (d : DebugText) : String := if pretty then d.spread 0 else d.plain

end DebugText

end BackingServices
