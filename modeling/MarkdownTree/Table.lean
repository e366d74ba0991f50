import MarkdownTree.Span

/-!
# Tables

A table is gathered from the nodes below its root. Rows of a header section are header rows; rows
of a body section and rows directly under the root are body rows. Anything that does not belong
into a table is left out and noted on the way, and so are the blocks inside of cells.
-/

namespace MarkdownTree

/-- The spans of a table cell. -/
abbrev Cell := List Span

/-- A table with its cells as spans. -/
structure Table where
  alignments : List Alignment
  header : List (List Cell)
  rows : List (List Cell)
deriving DecidableEq, Repr, Inhabited

namespace Table

/-- The widest row or the number of alignments, whichever is more. -/
def columnCount (t : Table) : Nat :=
  ((t.header ++ t.rows).map List.length).foldl max t.alignments.length

/-- Whether a node is a cell. -/
def isCell (doc : Document) (id : NodeId) : Bool :=
  doc.kind id == .block .tableCell

/-- Whether a node is a row. -/
def isRow (doc : Document) (id : NodeId) : Bool :=
  doc.kind id == .block .tableRow

/-- The alignments of a table root; no other node has any. -/
def alignmentsOf : NodeKind → List Alignment
  | .block (.tableRoot alignments) => alignments
  | _ => []

/-- A node that is left out. -/
inductive Skip
  /-- A node that does not belong into a table. -/
  | stray (id : NodeId)
  /-- A block among the inline content of a cell. -/
  | inCell (id : NodeId)
deriving DecidableEq, Repr, Inhabited

/-- The node of a skip that is none inside of a cell. -/
def Skip.stray? : Skip → Option NodeId
  | stray id => some id
  | inCell _ => none

/-- What is gathered, and the nodes that are left out on the way, in order. -/
structure Gathered (α : Type) where
  value : α
  skips : List Skip
deriving DecidableEq, Repr, Inhabited

instance : Monad Gathered where
  pure value := ⟨value, []⟩
  bind m f :=
    let r := f m.value
    ⟨r.value, m.skips ++ r.skips⟩

/-- Leaves a node out. -/
def skip {α : Type} (id : NodeId) (value : α) : Gathered α :=
  ⟨value, [.stray id]⟩

/-- The cell at a node. -/
def cell? (doc : Document) (id : NodeId) : Gathered (Option Cell) :=
  if isCell doc id then ⟨some (doc.spans id), (doc.skippedBlocks id).map .inCell⟩
  else skip id none

/-- The cells of the row at a node. -/
def row? (doc : Document) (id : NodeId) : Gathered (Option (List Cell)) :=
  if isRow doc id then some <$> (doc.children id).filterMapM (cell? doc)
  else skip id none

/-- Adds a child of the root to a table. -/
def addSection (doc : Document) (t : Table) (id : NodeId) : Gathered Table :=
  match doc.kind id with
  | .block .tableHeader => do
    let rows ← (doc.children id).filterMapM (row? doc)
    return { t with header := t.header ++ rows }
  | .block .tableBody => do
    let rows ← (doc.children id).filterMapM (row? doc)
    return { t with rows := t.rows ++ rows }
  | .block .tableRow => do
    let row ← row? doc id
    return { t with rows := t.rows ++ row.toList }
  | _ => skip id t

/-- Gathers the table below a node. -/
def gather (doc : Document) (id : NodeId) : Gathered Table :=
  (doc.children id).foldlM (addSection doc) ⟨alignmentsOf (doc.kind id), [], []⟩

/-- The table below a node. -/
def ofNode (doc : Document) (id : NodeId) : Table :=
  (gather doc id).value

/-- The nodes that do not belong into the table below a node, in the order in which they are left
out. -/
def skipped (doc : Document) (id : NodeId) : List NodeId :=
  (gather doc id).skips.filterMap Skip.stray?

end Table

end MarkdownTree
