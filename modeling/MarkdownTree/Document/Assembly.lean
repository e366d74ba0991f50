import MarkdownTree.Document.Builder
import MarkdownTree.Event

/-!
# Documents from events

An assembly folds events into a document and normalises a few shapes on the way.

* Inline content that lands in a block container is wrapped in an implicit paragraph, which ends
  at the next block.
* The cells of a table head get a row, the rows after the head get a body.
* The text of a code or HTML block is collected into its literal.
* Definition lists are transparent and metadata is dropped.
* A link reference definition is inserted before the first event that starts behind it, or before
  the end of the container that ends behind it.

Each open tag has a frame. Frames are kept innermost first.
-/

namespace MarkdownTree

/-- What is known of an open tag. -/
inductive Frame
  /-- A node opened by a tag. -/
  | explicit
  /-- A node opened without a tag: a wrapping paragraph, or the row or body of a table. -/
  | implicit
  /-- A tag without a node. -/
  | transparent
  /-- A code or HTML block and its text so far. -/
  | literal (kind : LiteralKind) (text : String)
  /-- Front matter. -/
  | metadata
deriving DecidableEq, Repr, Inhabited

/-- A document being assembled. `pending` holds the definitions not yet inserted, in the
order in which they are. -/
structure Assembly where
  builder : Builder
  frames : List Frame
  pending : List Definition
deriving DecidableEq, Repr, Inhabited

namespace Assembly

/-- The block of a finished literal. -/
def literalBlock : LiteralKind → String → Block
  | .indented, text => .indentedCodeBlock text
  | .fenced info, text => .fencedCodeBlock info text
  | .html, text => .htmlBlock text

/-- Appends a childless block. -/
def leaf (a : Assembly) (b : Block) : Assembly :=
  { a with builder := a.builder.leaf (.block b) }

/-- Opens a node that has no tag of its own. -/
def openImplicit (a : Assembly) (b : Block) : Assembly :=
  { a with builder := a.builder.openNode (.block b), frames := .implicit :: a.frames }

/-- Closes a wrapping paragraph, if one is innermost. -/
def closeImplicitParagraph (a : Assembly) : Assembly :=
  match a.frames with
  | .implicit :: frames =>
    if a.builder.currentKind.isParagraph then { a with builder := a.builder.close, frames }
    else a
  | _ => a

/-- Opens a wrapping paragraph, unless the current container takes inline content. -/
def ensureInlineContainer (a : Assembly) : Assembly :=
  if a.builder.currentKind.acceptsInline then a else a.openImplicit (.paragraph false)

/-- Opens the node of a block tag. -/
def openBlock (a : Assembly) (b : Block) : Assembly :=
  let a := a.closeImplicitParagraph
  { a with builder := a.builder.openNode (.block b), frames := .explicit :: a.frames }

/-- Opens the node of an inline tag. -/
def openInline (a : Assembly) (i : Inline) : Assembly :=
  let a := a.ensureInlineContainer
  { a with builder := a.builder.openNode (.inline i), frames := .explicit :: a.frames }

/-- Appends an inline leaf. -/
def inlineLeaf (a : Assembly) (i : Inline) : Assembly :=
  let a := a.ensureInlineContainer
  { a with builder := a.builder.leaf (.inline i) }

/-- Opens a tag that has no node yet. -/
def openFrame (a : Assembly) (f : Frame) : Assembly :=
  let a := a.closeImplicitParagraph
  { a with frames := f :: a.frames }

/-- Whether definitions may be inserted here: no literal, wrapping paragraph or transparent tag is
innermost, and the current container takes definitions. -/
def acceptsDefinitions (a : Assembly) : Bool :=
  match a.frames with
  | [] | .explicit :: _ => a.builder.currentKind.acceptsDefinitions
  | _ => false

/-- Appends the leading definitions that start before a position. -/
def insertBefore (position : Nat) (b : Builder) : List Definition → Builder × List Definition
  | [] => (b, [])
  | d :: ds =>
    if d.first < position then
      insertBefore position
        (b.leaf (.block (.linkReferenceDefinition d.label d.destination d.title))) ds
    else (b, d :: ds)

/-- Inserts the definitions that start before a position, where that is allowed. -/
def flush (a : Assembly) (position : Nat) : Assembly :=
  if a.acceptsDefinitions then
    let (builder, pending) := insertBefore position a.builder a.pending
    { a with builder, pending }
  else a

/-- Opens a tag. -/
def start (a : Assembly) : Tag → Assembly
  | .paragraph => a.openBlock (.paragraph false)
  | .heading level => a.openBlock (.heading level)
  | .blockQuote => a.openBlock .blockQuote
  | .literal kind => a.openFrame (.literal kind "")
  | .list (some n) => a.openBlock (.orderedList n)
  | .list none => a.openBlock .unorderedList
  | .item => a.openBlock .listItem
  | .footnoteDefinition label => a.openBlock (.footReferenceDefinition label)
  | .definitionList | .definitionListTitle | .definitionListDefinition =>
    a.openFrame .transparent
  | .table alignments => a.openBlock (.tableRoot alignments)
  | .tableHead => (a.openBlock .tableHeader).openImplicit .tableRow
  | .tableRow =>
    match a.builder.currentKind with
    | .block (.tableRoot _) => (a.openImplicit .tableBody).openBlock .tableRow
    | _ => a.openBlock .tableRow
  | .tableCell => a.openBlock .tableCell
  | .emphasis => a.openInline .emphasis
  | .strong => a.openInline .strong
  | .strikethrough => a.openInline .strikethrough
  | .superscript => a.openInline .superscript
  | .subscript => a.openInline .subscript
  | .link destination title => a.openInline (.link destination title)
  | .image destination title => a.openInline (.image destination title)
  | .metadata => { a with frames := .metadata :: a.frames }

/-- Closes the nodes without a tag that are innermost. -/
def closeImplicits (b : Builder) : List Frame → Builder × List Frame
  | .implicit :: frames => closeImplicits b.close frames
  | frames => (b, frames)

/-- Closes the innermost tag, which ends at a position. -/
def stop (a : Assembly) (position : Nat) : Assembly :=
  let (builder, frames) := closeImplicits a.builder a.frames
  let a := flush { a with builder, frames } position
  match a.frames with
  | .explicit :: frames => { a with builder := a.builder.close, frames }
  | .literal kind text :: frames => { a with frames }.leaf (literalBlock kind text)
  | _ :: frames => { a with frames }
  | [] => a

/-- Adds to the text of a literal, or else appends an inline leaf. -/
def collect (a : Assembly) (s : String) (i : Inline) : Assembly :=
  match a.frames with
  | .literal kind text :: frames => { a with frames := .literal kind (text ++ s) :: frames }
  | _ => a.inlineLeaf i

/-- Takes in one event. -/
def handle (a : Assembly) (position : Nat) : Event → Assembly
  | .start tag => a.start tag
  | .stop => a.stop position
  | .text s =>
    match a.frames with
    | .metadata :: _ => a
    | _ => a.collect s (.text s)
  | .html s => a.collect s (.htmlInline s)
  | .code s | .inlineMath s | .displayMath s => a.inlineLeaf (.code s)
  | .inlineHtml s => a.inlineLeaf (.htmlInline s)
  | .footnoteReference label => a.inlineLeaf (.footnoteReference label)
  | .softBreak => a.collect "\n" .softBreak
  | .hardBreak => a.inlineLeaf .hardBreak
  | .rule => a.closeImplicitParagraph.leaf .thematicBreak
  | .taskMarker checked => a.inlineLeaf (.taskMarker checked)

/-- Takes in one event at its place. The range of a closing tag covers the whole element, so its
definitions go inside and wait for `stop`. -/
def step (a : Assembly) (e : Located) : Assembly :=
  match e.event with
  | .stop => a.stop e.last
  | event => (a.flush e.first).handle e.last event

/-- The largest source position. Positions have 64 bits. -/
def endOfSource : Nat := 0xFFFFFFFFFFFFFFFF

/-- The assembly of no events. -/
def begin (definitions : List Definition) : Assembly :=
  ⟨.new, [], Definition.sorted definitions⟩

end Assembly

namespace Document

/-- Marks the paragraph that was created last. -/
def markTrailingParagraph (doc : Document) : Document :=
  match doc.iter.reverse.find? fun id => (doc.kind id).isParagraph with
  | some id => doc.setKind id (.block (.paragraph true))
  | none => doc

/-- The document that a sequence of events describes. Definitions that are left at the end of the
source come last. -/
def assemble (events : List Located) (definitions : List Definition) (fadeOut : Bool) :
    Document :=
  let a := (events.foldl Assembly.step (.begin definitions)).flush Assembly.endOfSource
  if fadeOut then a.builder.document.markTrailingParagraph else a.builder.document

end Document

end MarkdownTree
