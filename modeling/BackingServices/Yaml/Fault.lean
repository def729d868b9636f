import BackingServices.Text.Quoted
import BackingServices.Yaml.Character

/-!
# Why a YAML stream is not read

A stream that is not well formed has a problem at a place, and mostly something
that was being read, which began at another place.  A well-formed document may
still be refused: by its depth, by its aliases, or because one of its values
contradicts its tag or its neighbours.  A value is found by its path from the
root of the document.

Places are given as line and column.  The beginning of the stream is never
mentioned, nor is the beginning of what was being read if the problem is there.
-/

namespace BackingServices.Yaml

/-! ## Places -/

/-- A place in a stream. -/
structure Mark where
  /-- The characters before it. -/
  index : Nat
  /-- The lines before its line. -/
  line : Nat
  /-- The characters before it in its line. -/
  column : Nat
deriving DecidableEq, Inhabited

/-- The beginning of a stream. -/
def Mark.start : Mark := ⟨0, 0, 0⟩

/-- Whether two places have the same line and column. -/
def Mark.together (a b : Mark) : Bool := a.line == b.line && a.column == b.column

/-- A place in words; nothing is said of the beginning of a stream. -/
def Mark.text (m : Mark) : String :=
  if m.together .start then "" else s!" at line {m.line + 1} column {m.column + 1}"

/-! ## Streams that are not well formed -/

/-- What is wrong with a stream. -/
inductive Problem where
  /-- A quoted text is not closed. -/
  | ended
  /-- A document's mark stands inside a quoted text. -/
  | documentInside
  /-- An escape between double quotes is not known. -/
  | badEscape
  /-- A numeric escape lacks a digit. -/
  | noHexadecimal
  /-- A numeric escape gives no character. -/
  | badCharacterCode
  /-- A character can begin nothing. -/
  | unexpected
  /-- A simple key has no colon behind it. -/
  | noColon
  /-- A dash stands where no sequence can begin. -/
  | misplacedSequence
  /-- A question mark stands where no mapping can begin. -/
  | misplacedKey
  /-- A colon stands where no mapping can begin. -/
  | misplacedValue
  /-- A tab indents a line of a plain scalar. -/
  | tabInPlain
  /-- A colon in a flow collection is neither part of a plain scalar nor followed by a blank. -/
  | misplacedColon
  /-- A tab indents a line of a block scalar. -/
  | tabInBlock
  /-- A block scalar is indented by zero. -/
  | zeroIndentation
  /-- Something else stands where a line or a comment must follow. -/
  | noLineEnd
  /-- An anchor or alias has no name, or something follows its name. -/
  | badName
  /-- A verbatim tag is not closed. -/
  | unclosedTag
  /-- A tag's handle is not closed. -/
  | noExclamation
  /-- A tag is missing. -/
  | noTag
  /-- A percent sign in a tag has no two digits behind it. -/
  | noOctet
  /-- The first octet of a character in a tag is wrong. -/
  | badLeadingOctet
  /-- A later octet of a character in a tag is wrong. -/
  | badTrailingOctet
  /-- No blank follows the handle of a directive. -/
  | noBlank
  /-- Something follows a tag. -/
  | noBlankOrLineEnd
  /-- A directive has no name. -/
  | noDirectiveName
  /-- The name of a directive holds another character. -/
  | badDirectiveName
  /-- A directive is not known. -/
  | unknownDirective
  /-- A version lacks its point. -/
  | noPoint
  /-- A version lacks a number. -/
  | noVersion
  /-- A number of a version is too long. -/
  | longVersion
  /-- A version is given twice. -/
  | duplicateVersion
  /-- A version is not known. -/
  | badVersion
  /-- A handle is declared twice. -/
  | duplicateHandle
  /-- A handle is not declared. -/
  | unknownHandle
  /-- There is something behind the node of a document. -/
  | noDocument
  /-- A node is missing. -/
  | noContent
  /-- A block sequence neither goes on nor ends. -/
  | noDash
  /-- A block mapping neither goes on nor ends. -/
  | noKey
  /-- A flow sequence neither goes on nor ends. -/
  | noCommaInSequence
  /-- A flow mapping neither goes on nor ends. -/
  | noCommaInMapping
deriving DecidableEq

/-- The wording of a problem. -/
def Problem.message : Problem → String
  | .ended => "found unexpected end of stream"
  | .documentInside => "found unexpected document indicator"
  | .badEscape => "found unknown escape character"
  | .noHexadecimal => "did not find expected hexdecimal number"
  | .badCharacterCode => "found invalid Unicode character escape code"
  | .unexpected => "found character that cannot start any token"
  | .noColon => "could not find expected ':'"
  | .misplacedSequence => "block sequence entries are not allowed in this context"
  | .misplacedKey => "mapping keys are not allowed in this context"
  | .misplacedValue => "mapping values are not allowed in this context"
  | .tabInPlain => "found a tab character that violates indentation"
  | .misplacedColon => "found unexpected ':'"
  | .tabInBlock => "found a tab character where an indentation space is expected"
  | .zeroIndentation => "found an indentation indicator equal to 0"
  | .noLineEnd => "did not find expected comment or line break"
  | .badName => "did not find expected alphabetic or numeric character"
  | .unclosedTag => "did not find the expected '>'"
  | .noExclamation => "did not find expected '!'"
  | .noTag => "did not find expected tag URI"
  | .noOctet => "did not find URI escaped octet"
  | .badLeadingOctet => "found an incorrect leading UTF-8 octet"
  | .badTrailingOctet => "found an incorrect trailing UTF-8 octet"
  | .noBlank => "did not find expected whitespace"
  | .noBlankOrLineEnd => "did not find expected whitespace or line break"
  | .noDirectiveName => "could not find expected directive name"
  | .badDirectiveName => "found unexpected non-alphabetical character"
  | .unknownDirective => "found unknown directive name"
  | .noPoint => "did not find expected digit or '.' character"
  | .noVersion => "did not find expected version number"
  | .longVersion => "found extremely long version number"
  | .duplicateVersion => "found duplicate %YAML directive"
  | .badVersion => "found incompatible YAML document"
  | .duplicateHandle => "found duplicate %TAG directive"
  | .unknownHandle => "found undefined tag handle"
  | .noDocument => "did not find expected <document start>"
  | .noContent => "did not find expected node content"
  | .noDash => "did not find expected '-' indicator"
  | .noKey => "did not find expected key"
  | .noCommaInSequence => "did not find expected ',' or ']'"
  | .noCommaInMapping => "did not find expected ',' or '\x7d'"

/-- What was being read when a problem arose. -/
inductive Activity where
  /-- A token. -/
  | token
  /-- A simple key. -/
  | simpleKey
  /-- A quoted scalar. -/
  | quoted
  /-- An escape in a quoted scalar. -/
  | escape
  /-- A plain scalar. -/
  | plain
  /-- A block scalar. -/
  | block
  /-- An anchor. -/
  | anchor
  /-- An alias. -/
  | alias
  /-- The form of a tag. -/
  | tag
  /-- The text of a tag. -/
  | tagText
  /-- A directive. -/
  | directive
  /-- A directive that gives the version. -/
  | versionDirective
  /-- A directive that declares a handle. -/
  | handleDirective
  /-- The handle in such a directive. -/
  | handle
  /-- The end of the handle in such a directive. -/
  | handleEnd
  /-- The text in such a directive. -/
  | handleText
  /-- A node with its tag. -/
  | node
  /-- A node in block style. -/
  | blockNode
  /-- A node in flow style. -/
  | flowNode
  /-- A sequence in block style. -/
  | blockSequence
  /-- A mapping in block style. -/
  | blockMapping
  /-- A sequence in flow style. -/
  | flowSequence
  /-- A mapping in flow style. -/
  | flowMapping
deriving DecidableEq

/-- The wording of an activity. -/
def Activity.message : Activity → String
  | .token => "while scanning for the next token"
  | .simpleKey => "while scanning a simple key"
  | .quoted => "while scanning a quoted scalar"
  | .escape => "while parsing a quoted scalar"
  | .plain => "while scanning a plain scalar"
  | .block => "while scanning a block scalar"
  | .anchor => "while scanning an anchor"
  | .alias => "while scanning an alias"
  | .tag => "while scanning a tag"
  | .tagText => "while parsing a tag"
  | .directive => "while scanning a directive"
  | .versionDirective => "while scanning a %YAML directive"
  | .handleDirective => "while scanning a %TAG directive"
  | .handle => "while scanning a tag directive"
  | .handleEnd => "while parsing a tag directive"
  | .handleText => "while parsing a %TAG directive"
  | .node => "while parsing a node"
  | .blockNode => "while parsing a block node"
  | .flowNode => "while parsing a flow node"
  | .blockSequence => "while parsing a block collection"
  | .blockMapping => "while parsing a block mapping"
  | .flowSequence => "while parsing a flow sequence"
  | .flowMapping => "while parsing a flow mapping"

/-! ## Documents that are refused -/

/-- A step from a collection to a value in it. -/
inductive Step where
  /-- To the value of an index. -/
  | index (n : Nat)
  /-- To the value of a scalar key. -/
  | key (name : String)
  /-- To the value of another key. -/
  | unnamed
deriving DecidableEq

/-- The wording of a path, given from its last step to its first.  The root is a point. -/
def pathText : List Step → String
  | [] => "."
  | .index n :: outer => pathText outer ++ s!"[{n}]"
  | .key name :: outer => (if outer.isEmpty then "" else pathText outer ++ ".") ++ name
  | .unnamed :: outer => (if outer.isEmpty then "" else pathText outer ++ ".") ++ "?"

/-- A key in a refusal. -/
inductive KeyName where
  /-- The null value. -/
  | null
  /-- A truth value. -/
  | flag (value : Bool)
  /-- A number in its written form. -/
  | number (text : String)
  /-- A text. -/
  | text (value : String)
  /-- A collection or a tagged value. -/
  | other
deriving DecidableEq

/-- Why a value is refused. -/
inductive Refusal where
  /-- A key is given twice. -/
  | duplicate (key : KeyName)
  /-- A scalar is not what its tag says. -/
  | notTagged (text kind : String)
  /-- An integer has more than 64 bits. -/
  | wideInteger (value : Int)
deriving DecidableEq

/-- The wording of a refusal. -/
def Refusal.message : Refusal → String
  | .duplicate key =>
    "duplicate entry " ++
      (match key with
      | .null => "with null key"
      | .flag b => "with key `" ++ (if b then "true" else "false") ++ "`"
      | .number text => "with key " ++ text
      | .text s => "with key " ++ Text.quoted s
      | .other => "in YAML map")
  | .notTagged text kind => "invalid value: string " ++ Text.quoted text ++ ", expected " ++ kind
  | .wideInteger n =>
    s!"invalid type: integer `{n}` as " ++ (if n < 0 then "i128" else "u128") ++
      ", expected any YAML value"

/-- Why a stream is not read. -/
inductive Fault where
  /-- It is not well formed. -/
  | malformed (problem : Problem) (place : Mark) (activity? : Option (Activity × Mark))
  /-- A character may not stand in a stream; so many bytes go before it. -/
  | unreadable (position : Nat)
  /-- An alias has no anchor. -/
  | unknownAnchor (place : Mark)
  /-- Collections are nested too deep. -/
  | tooDeep (place : Mark)
  /-- Aliases are followed too often. -/
  | tooManyAliases
  /-- A value is refused. -/
  | refused (reason : Refusal) (path : List Step) (place : Mark)
deriving DecidableEq

/-- The wording of a fault. -/
def Fault.message : Fault → String
  | .malformed problem place activity? =>
    problem.message ++ place.text ++
      (match activity? with
      | none => ""
      | some (activity, beginning) =>
        ", " ++ activity.message ++ (if beginning.together place then "" else beginning.text))
  | .unreadable position =>
    "control characters are not allowed" ++
      (if position = 0 then "" else s!" at position {position}")
  | .unknownAnchor place => "unknown anchor" ++ place.text
  | .tooDeep place => "recursion limit exceeded" ++ place.text
  | .tooManyAliases => "repetition limit exceeded"
  | .refused reason path place =>
    let outer := pathText path
    (if outer = "." then "" else outer ++ ": ") ++ reason.message ++ place.text

end BackingServices.Yaml
