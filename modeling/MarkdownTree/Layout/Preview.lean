import MarkdownTree.Layout.Basic
import MarkdownTree.Text.Blank
import MarkdownTree.Text.Lines

/-!
# Preview

A preview shows a layout as plain text that looks like markdown. Every block writes lines behind a
margin: a quote adds a mark to it, and a list writes its items without a margin first and then
indents their lines below the item's marker.
-/

namespace MarkdownTree

namespace Preview

/-- One line behind a margin. -/
def line (margin text : List Char) : List Char :=
  margin ++ text ++ ['\n']

/-- The marks that open the style of a span. -/
def styleMarks (style : Style) : List Char :=
  (if style.code then ['`'] else []) ++ (if style.strong then ['*', '*'] else []) ++
    (if style.emphasis then ['*'] else []) ++ (if style.strikethrough then ['~', '~'] else [])

/-- A span between its marks, and with its link. -/
def spanText (span : Span) : List Char :=
  let marks := styleMarks span.style
  let text := marks ++ span.text.toList ++ marks.reverse
  match span.link with
  | some link => '[' :: text ++ [']', '('] ++ link.toList ++ [')']
  | none => text

/-- Spans with their marks. -/
def styled (spans : List Span) : List Char :=
  spans.flatMap spanText

/-- What a block shows inside of a heading. -/
def headingText : LayoutBlock → List Char
  | .text spans _ => styled spans
  | .run text => text.toList
  | _ => []

/-- A table row with the given cells. -/
def row (cells : List (List Char)) : List Char :=
  ['|', ' '] ++ (cells.intersperse [' ', '|', ' ']).flatten ++ [' ', '|']

/-- A table: header rows, a rule below them, and body rows. -/
def tableText (margin : List Char) (t : Table) : List Char :=
  let rows (rs : List (List Cell)) := rs.flatMap fun cells => line margin (row (cells.map styled))
  let rule := line margin (row (List.replicate t.columnCount ['-', '-', '-']))
  rows t.header ++ (if t.header.isEmpty then [] else rule) ++ rows t.rows

/-- Lines behind a margin. -/
def linesText (margin text : List Char) : List Char :=
  (Text.lines text).flatMap (line margin)

/-- The marker of the item at `index`. Numbers stop at the largest of 63 bits. -/
def marker (kind : ListKind) (startIndex : Int) (index : Nat) : List Char :=
  match kind with
  | .unordered => ['-', ' ']
  | .ordered => (toString (min (startIndex + index + 1) 0x7FFFFFFFFFFFFFFF)).toList ++ ['.', ' ']

/-- A list item with the given text: the first line behind the marker, the others below it. -/
def itemText (margin marker body : List Char) : List Char :=
  let indent := List.replicate marker.length ' '
  match Text.lines body with
  | [] => line margin marker
  | first :: rest =>
    line margin (marker ++ first) ++ rest.flatMap fun l => line margin (indent ++ l)

mutual

/-- Blocks one below the other. -/
def blocksText (margin : List Char) : List LayoutBlock → List Char
  | [] => []
  | b :: bs => blockText margin b ++ blocksText margin bs

/-- One block. -/
def blockText (margin : List Char) : LayoutBlock → List Char
  | .quote content => blocksText (margin ++ ['>', ' ']) content
  | .rule => line margin ['-', '-', '-']
  | .heading level content =>
    line margin (List.replicate (max 1 (min level 6)) '#' ++ ' ' :: content.flatMap headingText)
  | .code language text =>
    line margin (['`', '`', '`'] ++ (language.getD "").toList) ++
      linesText margin text.toList ++ line margin ['`', '`', '`']
  | .list kind startIndex items => itemsText margin kind startIndex 0 items
  | .text spans _ => line margin (styled spans)
  | .run text => linesText margin (Text.trimEnd text.toList)
  | .html literal => linesText margin (Text.trimEnd literal.toList)
  | .empty => line margin []
  | .table t => tableText margin t

/-- The items of a list, counted from `index`. -/
def itemsText (margin : List Char) (kind : ListKind) (startIndex : Int) :
    Nat → List (List LayoutBlock) → List Char
  | _, [] => []
  | index, item :: items =>
    itemText margin (marker kind startIndex index) (Text.trimEnd (blocksText [] item)) ++
      itemsText margin kind startIndex (index + 1) items

end

end Preview

/-- The preview of a layout, without blanks at its end. -/
def Layout.preview (l : Layout) : String :=
  String.ofList (Text.trimEnd (Preview.blocksText [] l.blocks))

end MarkdownTree
