import MarkdownTree.Document.Assembly
import MarkdownTree.Proofs.Tree.Arena

/-!
# Event forests and what they mean

Events whose tags are closed in order form a forest: leaves, and tags with a forest inside. This
module gives such a forest its meaning by plain recursion, with no stack of open tags and nothing
implicit.

* `EventTree.events` — the events of a tree in order.
* `EventTree.wellNested` — the forests looked at: tags nest freely, but code and HTML blocks hold
  text only, metadata holds text only, and the parts of a table occur in their places only.
* `EventTree.pieces` — what a tree contributes to the container around it.
* `Tree.fill` — a container with the pieces inside it. Where no inline content may stand, every
  maximal run of inline pieces is wrapped in one paragraph.
-/

namespace MarkdownTree

/-- What becomes of a tag. -/
inductive Tag.Role
  | block (b : Block)
  | inline (i : Inline)
  | literal (kind : LiteralKind)
  /-- Definition lists and their parts. -/
  | transparent
  | table (alignments : List Alignment)
  | head
  | row
  | cell
  | metadata
deriving DecidableEq, Repr, Inhabited

/-- The role of a tag. -/
def Tag.role : Tag → Tag.Role
  | .paragraph => .block (.paragraph false)
  | .heading level => .block (.heading level)
  | .blockQuote => .block .blockQuote
  | .literal kind => .literal kind
  | .list (some n) => .block (.orderedList n)
  | .list none => .block .unorderedList
  | .item => .block .listItem
  | .footnoteDefinition label => .block (.footReferenceDefinition label)
  | .definitionList | .definitionListTitle | .definitionListDefinition => .transparent
  | .table alignments => .table alignments
  | .tableHead => .head
  | .tableRow => .row
  | .tableCell => .cell
  | .emphasis => .inline .emphasis
  | .strong => .inline .strong
  | .strikethrough => .inline .strikethrough
  | .superscript => .inline .superscript
  | .subscript => .inline .subscript
  | .link destination title => .inline (.link destination title)
  | .image destination title => .inline (.image destination title)
  | .metadata => .metadata

/-- Whether an event is neither the start nor the end of a tag. -/
def Event.isLeaf : Event → Bool
  | .start _ | .stop => false
  | _ => true

/-- The inline node that an event stands for, if it stands for one. -/
def Event.inline? : Event → Option Inline
  | .text s => some (.text s)
  | .code s | .inlineMath s | .displayMath s => some (.code s)
  | .html s | .inlineHtml s => some (.htmlInline s)
  | .footnoteReference label => some (.footnoteReference label)
  | .softBreak => some .softBreak
  | .hardBreak => some .hardBreak
  | .taskMarker checked => some (.taskMarker checked)
  | .start _ | .stop | .rule => none

/-- What an event adds to the text of a code or HTML block, if it may stand there. -/
def Event.literal? : Event → Option String
  | .text s | .html s => some s
  | .softBreak => some "\n"
  | _ => none

/-- Source positions from `first` up to, not including, `last`. -/
structure SourceRange where
  first : Nat
  last : Nat
deriving DecidableEq, Repr, Inhabited

/-- A leaf event, or a tag with what it encloses. The start and the end of a tag are events of
their own, and so each has its own range. -/
inductive EventTree
  | leaf (e : Event) (range : SourceRange)
  | element (tag : Tag) (opening closing : SourceRange) (content : List EventTree)
deriving Repr, Inhabited

namespace EventTree

mutual

/-- The events of a tree in order. -/
def events : EventTree → List Located
  | leaf e range => [⟨e, range.first, range.last⟩]
  | element tag opening closing content =>
    ⟨.start tag, opening.first, opening.last⟩ ::
      (eventsAll content ++ [⟨.stop, closing.first, closing.last⟩])

/-- The events of a forest in order. -/
def eventsAll : List EventTree → List Located
  | [] => []
  | t :: ts => t.events ++ eventsAll ts

end

/-- The text of a leaf of a code or HTML block. -/
def literal? : EventTree → Option String
  | leaf e _ => e.literal?
  | element _ _ _ _ => none

/-- The text of a code or HTML block: that of its leaves in order. -/
def literalText (content : List EventTree) : String :=
  String.join (content.filterMap literal?)

/-- Whether a tree is a text event. -/
def isText : EventTree → Bool
  | leaf (.text _) _ => true
  | _ => false

mutual

/-- Whether a tree may stand outside of literals, metadata and tables, and so everything in it
where it stands. -/
def wellNested : EventTree → Bool
  | leaf e _ => e.isLeaf
  | element tag _ _ content =>
    match tag.role with
    | .literal _ => content.all fun t => t.literal?.isSome
    | .metadata => content.all isText
    | .table _ => tableNested content
    | .head | .row | .cell => false
    | .block _ | .inline _ | .transparent => wellNestedAll content

def wellNestedAll : List EventTree → Bool
  | [] => true
  | t :: ts => t.wellNested && wellNestedAll ts

/-- Whether a forest may stand in a table: a head with cells, then rows with cells. -/
def tableNested : List EventTree → Bool
  | element .tableHead _ _ cells :: rows => cellsNested cells && rowsNested rows
  | _ => false

def rowsNested : List EventTree → Bool
  | [] => true
  | element .tableRow _ _ cells :: rows => cellsNested cells && rowsNested rows
  | _ :: _ => false

def cellsNested : List EventTree → Bool
  | [] => true
  | element .tableCell _ _ content :: cells => wellNestedAll content && cellsNested cells
  | _ :: _ => false

end

end EventTree

/-! ## The reference translation -/

/-- What a tree of events contributes to the container around it. -/
inductive Piece
  /-- An inline tree. -/
  | inline (t : Tree)
  /-- A block tree; it ends a run of inline trees. -/
  | block (t : Tree)
  /-- No tree, but the end of a run of inline trees. -/
  | cut
deriving Repr, Inhabited

namespace Piece

/-- The tree of a piece. -/
def tree? : Piece → Option Tree
  | inline t | block t => some t
  | cut => none

/-- The paragraph around a run of inline trees; there is none around no trees. -/
def wrap : List Tree → List Tree
  | [] => []
  | t :: ts => [.node (.block (.paragraph false)) (t :: ts)]

/-- The trees of some pieces with every maximal run of inline trees wrapped in a paragraph. The
run in front of the pieces is `run`. -/
def wrapRuns (run : List Tree) : List Piece → List Tree
  | [] => wrap run
  | inline t :: ps => wrapRuns (run ++ [t]) ps
  | block t :: ps => wrap run ++ t :: wrapRuns [] ps
  | cut :: ps => wrap run ++ wrapRuns [] ps

end Piece

/-- The node of a container with some pieces inside it. -/
def Tree.fill (kind : NodeKind) (ps : List Piece) : Tree :=
  .node kind (if kind.acceptsInline then ps.filterMap Piece.tree? else Piece.wrapRuns [] ps)

/-- The children of a table root: the head, and one body around all the rows. -/
def Tree.tableParts : List Tree → List Tree
  | head :: row :: rows => [head, .node (.block .tableBody) (row :: rows)]
  | parts => parts

/-- What a leaf event contributes to the container around it. -/
def Event.pieces (e : Event) : List Piece :=
  match e with
  | .rule => [.block (.node (.block .thematicBreak) [])]
  | e => e.inline?.toList.map fun i => .inline (.node (.inline i) [])

namespace EventTree

mutual

/-- What a tree of events contributes to the container around it. -/
def pieces : EventTree → List Piece
  | leaf e _ => e.pieces
  | element tag _ _ content =>
    match tag.role with
    | .block b => [.block (.fill (.block b) (piecesAll content))]
    | .inline i => [.inline (.fill (.inline i) (piecesAll content))]
    | .literal kind =>
      [.block (.node (.block (Assembly.literalBlock kind (literalText content))) [])]
    | .transparent => .cut :: (piecesAll content ++ [.cut])
    | .table alignments =>
      [.block (.node (.block (.tableRoot alignments))
        (Tree.tableParts ((piecesAll content).filterMap Piece.tree?)))]
    | .head =>
      [.block (.node (.block .tableHeader) [.fill (.block .tableRow) (piecesAll content)])]
    | .row => [.block (.fill (.block .tableRow) (piecesAll content))]
    | .cell => [.block (.fill (.block .tableCell) (piecesAll content))]
    | .metadata => []

/-- What a forest contributes to the container around it. -/
def piecesAll : List EventTree → List Piece
  | [] => []
  | t :: ts => t.pieces ++ piecesAll ts

end

/-- The tree that a forest of events stands for. -/
def translate (forest : List EventTree) : Tree :=
  .fill (.block .document) (piecesAll forest)

end EventTree

end MarkdownTree
