/-!
# Node kinds

Every node of a document tree is either a *block*, which takes up vertical space, or an
*inline*, which flows inside the text of a block. The set of kinds is closed.

## Vocabulary

* `BlockType` forgets the fields of a `Block`; composers claim nodes by it.
* `NodeKind.acceptsInline` says which nodes may hold inline children directly.
-/

namespace MarkdownTree

/-- Column alignment of a table. -/
inductive Alignment
  | none | left | center | right
deriving DecidableEq, Repr, Inhabited

/-- Kinds of block nodes. -/
inductive Block
  | document
  | blockQuote
  | unorderedList
  /-- `start` is the first number shown. -/
  | orderedList (start : Nat)
  | thematicBreak
  | heading (level : Nat)
  | indentedCodeBlock (literal : String)
  /-- `info` is the raw text after the opening fence. -/
  | fencedCodeBlock (info literal : String)
  | htmlBlock (literal : String)
  | linkReferenceDefinition (label destination : String) (title : Option String)
  /-- `fadeOut` is a rendering hint that is passed through untouched. -/
  | paragraph (fadeOut : Bool)
  | tableRoot (alignments : List Alignment)
  | tableHeader
  | tableBody
  | tableRow
  | tableCell
  | listItem
  | footDefinition (label : String)
  | footReferenceDefinition (label : String)
deriving DecidableEq, Repr, Inhabited

/-- A block kind without its fields. -/
inductive BlockType
  | document
  | blockQuote
  | unorderedList
  | orderedList
  | thematicBreak
  | heading
  | indentedCodeBlock
  | fencedCodeBlock
  | htmlBlock
  | linkReferenceDefinition
  | paragraph
  | tableRoot
  | tableHeader
  | tableBody
  | tableRow
  | tableCell
  | listItem
  | footDefinition
  | footReferenceDefinition
deriving DecidableEq, Repr, Inhabited

/-- The type of a block. -/
def Block.type : Block → BlockType
  | .document => .document
  | .blockQuote => .blockQuote
  | .unorderedList => .unorderedList
  | .orderedList _ => .orderedList
  | .thematicBreak => .thematicBreak
  | .heading _ => .heading
  | .indentedCodeBlock _ => .indentedCodeBlock
  | .fencedCodeBlock _ _ => .fencedCodeBlock
  | .htmlBlock _ => .htmlBlock
  | .linkReferenceDefinition _ _ _ => .linkReferenceDefinition
  | .paragraph _ => .paragraph
  | .tableRoot _ => .tableRoot
  | .tableHeader => .tableHeader
  | .tableBody => .tableBody
  | .tableRow => .tableRow
  | .tableCell => .tableCell
  | .listItem => .listItem
  | .footDefinition _ => .footDefinition
  | .footReferenceDefinition _ => .footReferenceDefinition

/-- The name of a block type in outlines and messages. -/
def BlockType.name : BlockType → String
  | .document => "document"
  | .blockQuote => "block_quote"
  | .unorderedList => "unordered_list"
  | .orderedList => "ordered_list"
  | .thematicBreak => "thematic_break"
  | .heading => "heading"
  | .indentedCodeBlock => "indented_code_block"
  | .fencedCodeBlock => "fenced_code_block"
  | .htmlBlock => "html_block"
  | .linkReferenceDefinition => "link_reference_definition"
  | .paragraph => "paragraph"
  | .tableRoot => "table_root"
  | .tableHeader => "table_header"
  | .tableBody => "table_body"
  | .tableRow => "table_row"
  | .tableCell => "table_cell"
  | .listItem => "list_item"
  | .footDefinition => "foot_definition"
  | .footReferenceDefinition => "foot_reference_definition"

/-- The name of a block type as a JSON value. -/
def BlockType.jsonName : BlockType → String
  | .document => "Document"
  | .blockQuote => "BlockQuote"
  | .unorderedList => "UnorderedList"
  | .orderedList => "OrderedList"
  | .thematicBreak => "ThematicBreak"
  | .heading => "Heading"
  | .indentedCodeBlock => "IndentedCodeBlock"
  | .fencedCodeBlock => "FencedCodeBlock"
  | .htmlBlock => "HtmlBlock"
  | .linkReferenceDefinition => "LinkReferenceDefinition"
  | .paragraph => "Paragraph"
  | .tableRoot => "TableRoot"
  | .tableHeader => "TableHeader"
  | .tableBody => "TableBody"
  | .tableRow => "TableRow"
  | .tableCell => "TableCell"
  | .listItem => "ListItem"
  | .footDefinition => "FootDefinition"
  | .footReferenceDefinition => "FootReferenceDefinition"

/-- Kinds of inline nodes. -/
inductive Inline
  | text (literal : String)
  | code (literal : String)
  | emphasis
  | strong
  | strikethrough
  | superscript
  | subscript
  | link (destination title : String)
  | image (destination title : String)
  | htmlInline (literal : String)
  | softBreak
  | hardBreak
  | footnoteReference (label : String)
  | taskMarker (checked : Bool)
deriving DecidableEq, Repr, Inhabited

/-- Whether an inline kind wraps other inline nodes. -/
def Inline.isContainer : Inline → Bool
  | .emphasis | .strong | .strikethrough | .superscript | .subscript => true
  | .link _ _ | .image _ _ => true
  | _ => false

/-- The name of an inline kind in outlines. -/
def Inline.name : Inline → String
  | .text _ => "text"
  | .code _ => "code"
  | .emphasis => "emphasis"
  | .strong => "strong"
  | .strikethrough => "strikethrough"
  | .superscript => "superscript"
  | .subscript => "subscript"
  | .link _ _ => "link"
  | .image _ _ => "image"
  | .htmlInline _ => "html_inline"
  | .softBreak => "soft_break"
  | .hardBreak => "hard_break"
  | .footnoteReference _ => "footnote_reference"
  | .taskMarker _ => "task_marker"

/-- Kind of a tree node. -/
inductive NodeKind
  | block (b : Block)
  | inline (i : Inline)
deriving DecidableEq, Repr, Inhabited

namespace NodeKind

/-- The block type, or `none` for an inline node. -/
def blockType? : NodeKind → Option BlockType
  | .block b => some b.type
  | .inline _ => Option.none

/-- The name of a kind in outlines. -/
def name : NodeKind → String
  | .block b => b.type.name
  | .inline i => i.name

/-- Whether a node is a block. -/
def isBlock : NodeKind → Bool
  | .block _ => true
  | .inline _ => false

/-- Whether a node is a list item. -/
def isListItem : NodeKind → Bool
  | .block .listItem => true
  | _ => false

/-- Whether a node is a paragraph. -/
def isParagraph : NodeKind → Bool
  | .block (.paragraph _) => true
  | _ => false

/-- Whether inline nodes may be attached to this node directly.

Documents, quotes, items and footnotes hold blocks only. -/
def acceptsInline : NodeKind → Bool
  | .block (.paragraph _) => true
  | .block (.heading _) => true
  | .block .tableCell => true
  | .block _ => false
  | .inline i => i.isContainer

/-- Whether link reference definitions may be placed under this node. -/
def acceptsDefinitions : NodeKind → Bool
  | .block .document => true
  | .block .blockQuote => true
  | .block .listItem => true
  | .block (.footDefinition _) => true
  | .block (.footReferenceDefinition _) => true
  | _ => false

end NodeKind

end MarkdownTree
