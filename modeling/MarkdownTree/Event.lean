import MarkdownTree.Node.Kind

/-!
# Events

A markdown document read from front to back is a sequence of events: a tag opens or closes, or a
leaf occurs. Every event carries the range of source positions it covers. Link reference
definitions are no events; they are listed beside them with the position where each one starts.
-/

namespace MarkdownTree

/-- What a code block or an HTML block is told apart by. -/
inductive LiteralKind
  | indented
  | fenced (info : String)
  | html
deriving DecidableEq, Repr, Inhabited

/-- Tags that enclose other events. -/
inductive Tag
  | paragraph
  | heading (level : Nat)
  | blockQuote
  | literal (kind : LiteralKind)
  | list (start : Option Nat)
  | item
  | footnoteDefinition (label : String)
  | definitionList
  | definitionListTitle
  | definitionListDefinition
  | table (alignments : List Alignment)
  | tableHead
  | tableRow
  | tableCell
  | emphasis
  | strong
  | strikethrough
  | superscript
  | subscript
  | link (destination title : String)
  | image (destination title : String)
  | metadata
deriving DecidableEq, Repr, Inhabited

/-- What happens at one place of a markdown document. -/
inductive Event
  | start (tag : Tag)
  | stop
  | text (s : String)
  | code (s : String)
  | inlineMath (s : String)
  | displayMath (s : String)
  | html (s : String)
  | inlineHtml (s : String)
  | footnoteReference (label : String)
  | softBreak
  | hardBreak
  | rule
  | taskMarker (checked : Bool)
deriving DecidableEq, Repr, Inhabited

/-- An event and the source positions it covers: from `first` up to, not including, `last`. -/
structure Located where
  event : Event
  first : Nat
  last : Nat
deriving DecidableEq, Repr, Inhabited

/-- A link reference definition and the source position where it starts. -/
structure Definition where
  label : String
  destination : String
  title : Option String
  first : Nat
deriving DecidableEq, Repr, Inhabited

/-- Definitions by where they start. Of those that start at the same place the last one comes
first. -/
def Definition.sorted (definitions : List Definition) : List Definition :=
  definitions.reverse.mergeSort fun d e => d.first ≤ e.first

end MarkdownTree
