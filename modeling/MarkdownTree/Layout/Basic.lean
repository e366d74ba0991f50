import MarkdownTree.Table

/-!
# Layouts

A layout is a tree of blocks that can be set one below the other. It is what a document is
rendered to.
-/

namespace MarkdownTree

/-- Whether the items of a list are numbered. -/
inductive ListKind
  | unordered | ordered
deriving DecidableEq, Repr, Inhabited

/-- One block of a layout. -/
inductive LayoutBlock
  | quote (content : List LayoutBlock)
  | rule
  | heading (level : Nat) (content : List LayoutBlock)
  | code (language : Option String) (text : String)
  /-- `startIndex` is one less than the number of the first item. -/
  | list (kind : ListKind) (startIndex : Int) (items : List (List LayoutBlock))
  | text (spans : List Span) (fadeOut : Bool)
  /-- Text without style. -/
  | run (text : String)
  /-- Nothing, in the place of a block. -/
  | empty
  /-- Markup for another renderer. -/
  | html (literal : String)
  | table (table : Table)
deriving Repr, Inhabited

/-- A rendered document. -/
structure Layout where
  blocks : List LayoutBlock
deriving Repr, Inhabited

end MarkdownTree
