import MarkdownTree.Document.Basic

/-!
# Diagnostics

A diagnostic says that a node is somewhere it does not belong, or too deep. Rendering goes on
after every diagnostic.
-/

namespace MarkdownTree

/-- What is wrong with the position of a node. -/
inductive DiagnosticKind
  /-- Text where a block is expected; it is shown as a plain run. -/
  | textOutsideBlock
  /-- Another inline node where a block is expected; it is dropped. -/
  | inlineInBlockPosition
  /-- A list item outside of a list; it is dropped. -/
  | listItemOutsideList
  /-- A part of a table outside of a table; it is dropped. -/
  | tablePartOutsideTable
  /-- A node nested too deeply; it is dropped. -/
  | depthExceeded
deriving DecidableEq, Repr, Inhabited

/-- The name of a diagnostic kind in JSON. -/
def DiagnosticKind.name : DiagnosticKind → String
  | .textOutsideBlock => "text_outside_block"
  | .inlineInBlockPosition => "inline_in_block_position"
  | .listItemOutsideList => "list_item_outside_list"
  | .tablePartOutsideTable => "table_part_outside_table"
  | .depthExceeded => "depth_exceeded"

/-- The wording of a diagnostic kind. -/
def DiagnosticKind.message : DiagnosticKind → String
  | .textOutsideBlock => "text node in block position, rendered as plain run"
  | .inlineInBlockPosition => "inline node in block position, skipped"
  | .listItemOutsideList => "list item outside of a list, skipped"
  | .tablePartOutsideTable => "table part outside of a table, skipped"
  | .depthExceeded => "maximum nesting depth exceeded, subtree skipped"

/-- A node with something wrong. `parent` is the block type of its parent, if that is a block. -/
structure Diagnostic where
  node : NodeId
  parent : Option BlockType
  kind : DiagnosticKind
deriving DecidableEq, Repr, Inhabited

namespace Diagnostic

/-- The diagnostic of a kind for a node. -/
def of (doc : Document) (node : NodeId) (kind : DiagnosticKind) : Diagnostic :=
  ⟨node, (doc.parent? node).bind fun p => (doc.kind p).blockType?, kind⟩

/-- The wording of a diagnostic. -/
def message (d : Diagnostic) : String :=
  let place := match d.parent with
    | some parent => " under " ++ parent.name
    | none => ""
  "node #" ++ toString d.node ++ place ++ ": " ++ d.kind.message

end Diagnostic

end MarkdownTree
