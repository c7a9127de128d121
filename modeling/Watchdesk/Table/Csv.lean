/-!
# Comma-separated tables

A table is a list of records, and a record a list of cells. Cells are separated by commas and
records by line feeds; a cell that holds a separator, a quote or a line break stands between
quotes, and a quote inside is then written twice. A document starts with a byte-order mark, and
has no line feed at its end.
-/

namespace Watchdesk.Csv

/-- The mark at the start of a document. -/
def byteOrderMark : Char := '\uFEFF'

/-- A cell that holds this character has to be quoted. -/
def isSpecial (c : Char) : Bool := c == ',' || c == '"' || c == '\n' || c == '\r'

/-- A character inside quotes. -/
def doubled (c : Char) : List Char := if c = '"' then ['"', '"'] else [c]

/-- The written form of a cell. -/
def cell (s : List Char) : List Char :=
  if s.any isSpecial then '"' :: s.flatMap doubled ++ ['"'] else s

/-- The written form of a cell as a string. -/
def quote (s : String) : String := String.ofList (cell s.toList)

/-- The written form of a record. -/
def line (cells : List String) : List Char :=
  [','].intercalate (cells.map fun s => cell s.toList)

/-- The written form of a header and records, with the mark in front. -/
def document (header : List String) (records : List (List String)) : List Char :=
  byteOrderMark :: line header ++ records.flatMap fun r => '\n' :: line r

/-! ## Reading -/

/-- Where a reader stands in a cell. -/
inductive Place where
  /-- Before the first character. -/
  | start
  /-- In a cell without quotes. -/
  | bare
  /-- Between quotes. -/
  | quoted
  /-- Behind a quote that ends the cell or is the first of two. -/
  | afterQuote
deriving DecidableEq, Repr

/-- What a reader has gathered: the cell that it is in, the cells before it in the record, and the
records before that one, each in reverse. -/
structure Gathered where
  cell : List Char := []
  cells : List String := []
  records : List (List String) := []
deriving Repr

namespace Gathered

/-- Take a character into the cell. -/
def push (g : Gathered) (c : Char) : Gathered := { g with cell := c :: g.cell }

/-- End the cell. -/
def endCell (g : Gathered) : Gathered :=
  { g with cell := [], cells := String.ofList g.cell.reverse :: g.cells }

/-- End the record. -/
def endRecord (g : Gathered) : Gathered :=
  let g := g.endCell
  { g with cells := [], records := g.cells.reverse :: g.records }

end Gathered

/-- Read on from a place: none if a quote stands where none may stand, or the last one is
missing. -/
def readFrom : Place → Gathered → List Char → Option (List (List String))
  | .quoted, _, [] => none
  | _, g, [] => some g.endRecord.records.reverse
  | .quoted, g, '"' :: s => readFrom .afterQuote g s
  | .quoted, g, c :: s => readFrom .quoted (g.push c) s
  | .afterQuote, g, '"' :: s => readFrom .quoted (g.push '"') s
  | _, g, ',' :: s => readFrom .start g.endCell s
  | _, g, '\n' :: s => readFrom .start g.endRecord s
  | .start, g, '"' :: s => readFrom .quoted g s
  | .afterQuote, _, _ :: _ => none
  | _, g, c :: s => if c = '"' then none else readFrom .bare (g.push c) s

/-- The records of a document, after one byte-order mark if it starts with one. -/
def read (s : List Char) : Option (List (List String)) :=
  match s with
  | c :: rest => if c = byteOrderMark then readFrom .start {} rest else readFrom .start {} s
  | [] => readFrom .start {} []

end Watchdesk.Csv
