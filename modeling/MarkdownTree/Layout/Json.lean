import MarkdownTree.Json.Value
import MarkdownTree.Layout.Basic
import MarkdownTree.Render.Diagnostic

/-!
# Layouts and diagnostics in JSON

A block without content is a string; any other block is an object whose only field is named for
what the block is.
-/

namespace MarkdownTree

/-- An object with one field. -/
def Json.tagged (tag : String) (v : Json) : Json :=
  .obj [(tag, v)]

/-- A string, or null. -/
def Json.optional : Option String → Json
  | some s => .str s
  | none => .null

/-- The name of an alignment. -/
def Alignment.name : Alignment → String
  | .none => "None"
  | .left => "Left"
  | .center => "Center"
  | .right => "Right"

/-- A style with all its flags. -/
def Style.toJson (style : Style) : Json :=
  .obj [("strong", .bool style.strong), ("emphasis", .bool style.emphasis),
    ("strikethrough", .bool style.strikethrough), ("code", .bool style.code),
    ("superscript", .bool style.superscript), ("subscript", .bool style.subscript)]

/-- A span; the link is left out if there is none. -/
def Span.toJson (span : Span) : Json :=
  .obj ([("text", .str span.text), ("style", span.style.toJson)] ++
    match span.link with
    | some link => [("link", .str link)]
    | none => [])

/-- Rows of cells. -/
def Table.rowsToJson (rows : List (List Cell)) : Json :=
  .arr (rows.map fun row => .arr (row.map fun cell => .arr (cell.map Span.toJson)))

/-- A table. -/
def Table.toJson (t : Table) : Json :=
  .obj [("alignments", .arr (t.alignments.map fun a => .str a.name)),
    ("header", rowsToJson t.header), ("rows", rowsToJson t.rows)]

/-- The name of a list kind. -/
def ListKind.name : ListKind → String
  | .unordered => "unordered"
  | .ordered => "ordered"

/-- The accessibility role of every heading. -/
def headingRole : String := "heading"

namespace LayoutBlock

mutual

/-- A block. -/
def toJson : LayoutBlock → Json
  | .quote content => .tagged "quote" (.arr (blocksToJson content))
  | .rule => .str "rule"
  | .heading level content =>
    .tagged "heading" (.obj [("level", .int level), ("role", .str headingRole),
      ("content", .arr (blocksToJson content))])
  | .code language literal =>
    .tagged "code" (.obj [("language", .optional language), ("text", .str literal)])
  | .list kind startIndex items =>
    .tagged "list" (.obj [("kind", .str kind.name), ("start_index", .int startIndex),
      ("items", .arr (itemsToJson items))])
  | .text spans fadeOut =>
    .tagged "text" (.obj [("spans", .arr (spans.map Span.toJson)), ("fade_out", .bool fadeOut)])
  | .run literal => .tagged "run" (.str literal)
  | .empty => .str "empty"
  | .html literal => .tagged "html" (.str literal)
  | .table t => .tagged "table" t.toJson

/-- Blocks in order. -/
def blocksToJson : List LayoutBlock → List Json
  | [] => []
  | b :: bs => b.toJson :: blocksToJson bs

/-- The items of a list. -/
def itemsToJson : List (List LayoutBlock) → List Json
  | [] => []
  | item :: items => .arr (blocksToJson item) :: itemsToJson items

end

end LayoutBlock

/-- A layout. -/
def Layout.toJson (l : Layout) : Json :=
  .obj [("blocks", .arr (LayoutBlock.blocksToJson l.blocks))]

/-- A diagnostic. -/
def Diagnostic.toJson (d : Diagnostic) : Json :=
  .obj [("node", .int d.node), ("parent", .optional (d.parent.map BlockType.jsonName)),
    ("kind", .str d.kind.name)]

end MarkdownTree
