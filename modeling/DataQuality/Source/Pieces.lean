/-!
# Pieces of a text

The columns of a delimited text are found piece by piece. The text comes in blocks of
`DataQuality.Source.blockSize` bytes; every piece ends with a line, the last one perhaps without a
line end. What is left of a block behind its last line end opens the next piece.

When something was left over, the first line end of a block is looked for from its front; its last
line end is then looked for from its back. All these searches are one: each goes on with the quote
and the backslash with which the one before it ended. A line does not end inside double quotes, nor
behind a backslash, whatever the dialect of the text. What is left over at the end of the text is a
piece only if the last search ended neither inside double quotes nor behind a backslash.
-/

namespace DataQuality.Source

/-- A text in bytes. -/
abbrev Bytes := List UInt8

/-! ### Blocks -/

/-- The number of bytes in a block. -/
def blockSize : Nat := 8192

/-- The **blocks** of a text, all of them full but the last one. -/
def blocks (text : Bytes) : List Bytes :=
  if text.isEmpty then [] else text.take blockSize :: blocks (text.drop blockSize)
termination_by text.length
decreasing_by
  rename_i h
  rw [List.length_drop]
  have hpos : 0 < text.length := List.length_pos_iff.2 (by simpa using h)
  exact Nat.sub_lt hpos (by decide)

/-! ### The search for line ends -/

/-- Where the **search** for a line end stands. -/
structure LineSearch where
  /-- Whether a double quote is open. -/
  quoted : Bool
  /-- Whether the byte before was a backslash. -/
  escaped : Bool
  deriving DecidableEq

namespace LineSearch

/-- The beginning of a search. -/
def start : LineSearch := ⟨false, false⟩

/-- The search after one more byte. -/
def step (s : LineSearch) (b : UInt8) : LineSearch :=
  if s.escaped then { s with escaped := false }
  else if b = 92 then { s with escaped := true }
  else if b = 34 then { s with quoted := !s.quoted }
  else s

/-- Whether the next byte ends a line. -/
def endsLine (s : LineSearch) (b : UInt8) : Bool := !s.escaped && !s.quoted && b = 10

/-- Whether something is open: a double quote, or a backslash. -/
def isOpen (s : LineSearch) : Bool := s.quoted || s.escaped

/-- The search up to the first byte that ends a line: how it stands there, the bytes before that
byte, and the bytes from it on. -/
def pass (s : LineSearch) : Bytes → LineSearch × Bytes × Bytes
  | [] => (s, [], [])
  | b :: bs =>
    if s.endsLine b then (s, [], b :: bs)
    else
      let (s, passed, rest) := pass (s.step b) bs
      (s, b :: passed, rest)

end LineSearch

/-! ### Pieces -/

/-- The pieces of a text as far as it has been read. -/
structure PieceList where
  /-- How the search for line ends stands. -/
  search : LineSearch
  /-- The complete pieces. -/
  complete : List Bytes
  /-- What is left over behind the last of them. -/
  left : Bytes

namespace PieceList

/-- Before anything has been read. -/
def empty : PieceList := ⟨.start, [], []⟩

/-- The pieces with one more at their end, if it has any bytes. -/
def add (p : PieceList) (piece : Bytes) : PieceList :=
  if piece.isEmpty then p else { p with complete := p.complete ++ [piece] }

/-- The pieces after a block, or the rest of one, before which nothing was left over: it is cut
behind its last line end, which is looked for from the back. -/
def cutLast (p : PieceList) (block : Bytes) : PieceList :=
  let (search, after, upTo) := p.search.pass block.reverse
  add ⟨search, p.complete, after.reverse⟩ upTo.reverse

/-- The pieces after one more **block**. -/
def addBlock (p : PieceList) (block : Bytes) : PieceList :=
  if p.left.isEmpty then p.cutLast block
  else
    match p.search.pass block with
    | (search, passed, []) => ⟨search, p.complete, p.left ++ passed⟩
    | (search, passed, lineEnd :: rest) =>
      cutLast ⟨search, p.complete ++ [p.left ++ passed ++ [lineEnd]], []⟩ rest

/-- All pieces, when nothing follows. What is left over is the last one; a double quote or a
backslash that is open makes it an error, for which `none` stands. -/
def finish (p : PieceList) : List (Option Bytes) :=
  p.complete.map some ++
    (if p.left.isEmpty then [] else if p.search.isOpen then [none] else [some p.left])

end PieceList

/-- The **pieces** of a text. -/
def pieces (text : Bytes) : List (Option Bytes) :=
  ((blocks text).foldl PieceList.addBlock .empty).finish

end DataQuality.Source
