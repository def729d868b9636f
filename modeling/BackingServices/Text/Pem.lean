import BackingServices.Text.Base64

/-!
# Blocks of base64 between marks

A block has a tag and some bytes.  It is written as a begin mark, the bytes in
base64, and an end mark.  Headers may stand before the bytes, with a blank line
between.  What is around the blocks is passed over.

A mark is searched from the left, and a part of it that is broken off is passed over
whole: in five dashes and one more before a mark, the mark is not found.
-/

namespace BackingServices.Text

/-- What is wrong with a block. -/
inductive Pem.Fault where
  /-- The tags of the marks differ. -/
  | differentTags (first last : String)
  /-- The begin mark has no tag. -/
  | noFirstTag
  /-- The end mark has no tag. -/
  | noLastTag
  /-- The bytes are not in base64. -/
  | data (fault : Base64.Fault)
  /-- A header has no colon. -/
  | header (line : String)
  /-- A part is no text. -/
  | notText (fault : Utf8.Fault)
deriving DecidableEq

/-- The wording of a fault. -/
def Pem.Fault.message : Pem.Fault → String
  | .differentTags first last => "mismatching BEGIN (\"" ++ first ++ "\") and END (\"" ++ last ++ "\") tags"
  | .noFirstTag => "missing BEGIN tag"
  | .noLastTag => "missing END tag"
  | .data fault => "invalid data: " ++ fault.message
  | .header line => "invalid header: " ++ line
  | .notText fault => "invalid utf-8 value: " ++ fault.message

/-- A block. -/
structure Pem where
  /-- Its tag. -/
  tag : String
  /-- Its bytes. -/
  contents : List UInt8
deriving DecidableEq

namespace Pem

/-- What stands before a mark and behind it, where some of the mark's bytes have just been seen. -/
def splitAt? (mark : List UInt8) : List UInt8 → List UInt8 → List UInt8 → Option (List UInt8 × List UInt8)
  | seen, [], rest => some (seen.reverse.take (seen.length - mark.length), rest)
  | _, _ :: _, [] => none
  | seen, m :: ms, b :: bs =>
    if b = m then splitAt? mark (b :: seen) ms bs else splitAt? mark (b :: seen) mark bs

/-- What stands before the first mark and behind it. -/
def cut? (mark : String) (bs : List UInt8) : Option (List UInt8 × List UInt8) :=
  splitAt? (encode mark) [] (encode mark) bs

/-- Whether a byte is a blank, a tabulator or a line end. -/
def isGap (b : UInt8) : Bool := b == 32 || b == 9 || b == 10 || b == 13

/-- Whether a byte is white space between digits. -/
def isBlankByte (b : UInt8) : Bool := isGap b || b == 12

/-- The parts of a block. -/
structure Parts where
  /-- The tag of the begin mark. -/
  first : List UInt8
  /-- What stands between the marks. -/
  body : List UInt8
  /-- The tag of the end mark. -/
  last : List UInt8

/-- The parts of the first block, and what stands behind it. -/
def parts? (bs : List UInt8) : Option (Parts × List UInt8) := do
  let (_, bs) ← cut? "-----BEGIN " bs
  let (first, bs) ← cut? "-----" bs
  let (body, bs) ← cut? "-----END " (bs.dropWhile isGap)
  let (last, bs) ← cut? "-----" bs
  return (⟨first, body, last⟩, bs.dropWhile isGap)

/-- The headers and the data in a body. -/
def headersAndData (body : List UInt8) : List UInt8 × List UInt8 :=
  ((cut? "\n\n" body).or (cut? "\r\n\r\n" body)).getD ([], body)

/-- The text of some bytes. -/
def text (bs : List UInt8) : Except Fault String := (decode? bs).mapError .notText

/-- The lines of a text, without their ends. -/
def linesOf (s : String) : List String :=
  let lines := s.toList.splitOn '\n'
  let lines := if lines.getLast? = some [] then lines.dropLast else lines
  lines.map fun line => String.ofList (if line.getLast? = some '\r' then line.dropLast else line)

/-- Checks that every header has a colon. -/
def checkHeaders (lines : List String) : Except Fault Unit :=
  match lines.find? fun line => !line.toList.contains ':' with
  | some line => .error (.header line)
  | none => .ok ()

/-- The block of some parts. -/
def ofParts (p : Parts) : Except Fault Pem := do
  let first ← text p.first
  if first = "" then .error .noFirstTag
  let last ← text p.last
  if last = "" then .error .noLastTag
  if first ≠ last then .error (.differentTags first last)
  let (headers, data) := headersAndData p.body
  let _ ← text data
  let contents ← (Base64.decode (data.filter fun b => !isBlankByte b)).mapError .data
  checkHeaders (linesOf (← text headers))
  .ok ⟨first, contents⟩

/-- The blocks in some bytes, with fuel for so many. -/
def blocks : Nat → List UInt8 → Except Fault (List Pem)
  | 0, _ => .ok []
  | n + 1, bs =>
    match parts? bs with
    | none => .ok []
    | some (p, rest) => do
      let block ← ofParts p
      .ok (block :: (← blocks n rest))

/-- The blocks in some bytes. -/
def read (bs : List UInt8) : Except Fault (List Pem) := blocks (bs.length + 1) bs

end Pem

end BackingServices.Text
