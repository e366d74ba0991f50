import MarkdownTree.Document.Assembly
import MarkdownTree.Markdown.Blocks
import MarkdownTree.Markdown.Emphasis

/-!
# Markdown

Markdown is read into events, and the events are assembled into a document.

* `Element.events` — the events of a block
* `Document.parse` — the document of a text
-/

namespace MarkdownTree

namespace Markdown

/-- The events of inline content. -/
def Passage.events (targets : Targets) (p : Passage) : List Located :=
  Piece.events (p.pieces targets)

/-- The tag of a container. A list with bullets has no start. -/
def Container.tag : Container → Tag
  | .quote => .blockQuote
  | .list _ mark start => .list (if (ListMarker.mk mark start).isBullet then none else some start)
  | .item _ => .item
  | .footnote label => .footnoteDefinition (String.ofList label)

/-- Events with a tag around them. -/
def enclose (tag : Tag) (first last : Nat) (content : List Located) : List Located :=
  ⟨.start tag, first, last⟩ :: content ++ [⟨.stop, first, last⟩]

/-- The event of the text of a literal, if there is any. -/
def literalEvents (kind : LiteralKind) (text : List Char) (first last : Nat) : List Located :=
  if text.isEmpty then []
  else
    match kind with
    | .html => [⟨.html (String.ofList text), first, last⟩]
    | _ => [⟨.text (String.ofList text), first, last⟩]

/-- The events of the cells of a row. -/
def rowEvents (targets : Targets) (first last : Nat) (row : List Passage) : List Located :=
  row.flatMap fun p => enclose .tableCell first last (p.events targets)

/-- The events of the rows of a table, the first of which is its head. -/
def tableEvents (targets : Targets) (first last : Nat) : List (List Passage) → List Located
  | [] => []
  | head :: rows =>
    enclose .tableHead first last (rowEvents targets first last head) ++
      rows.flatMap fun row => enclose .tableRow first last (rowEvents targets first last row)

/-- The events of a block. -/
def Element.events (targets : Targets) : Element → List Located
  | .container c first last children =>
    enclose c.tag first last (children.flatMap (Element.events targets))
  | .paragraph bare first last content =>
    if bare then content.events targets else enclose .paragraph first last (content.events targets)
  | .heading level first last content =>
    enclose (.heading level) first last (content.events targets)
  | .literal kind text first last =>
    enclose (.literal kind) first last (literalEvents kind text first last)
  | .rule first last => [⟨.rule, first, last⟩]
  | .table alignments first last rows =>
    enclose (.table alignments) first last (tableEvents targets first last rows)
  | .task checked first last => [⟨.taskMarker checked, first, last⟩]

/-- The events of a text, and its link reference definitions. -/
def readEvents (d : Dialect) (text : List Char) : List Located × List Definition :=
  let (elements, definitions, footnotes) := readBlocks d text
  (elements.flatMap (Element.events ⟨d, definitions, footnotes⟩), definitions)

end Markdown

/-- The document of a markdown text. -/
def Document.parse (o : ParseOptions) (text : String) : Document :=
  let (events, definitions) := Markdown.readEvents o.toDialect text.toList
  Document.assemble events definitions o.fadeOut

end MarkdownTree
