import MarkdownTree.Render.Call
import MarkdownTree.Render.Diagnostic

/-!
# Composers

A composer takes over the rendering of the block types it claims. What it does with a claimed node
is a list of actions, performed in order: calls on the sink, and ways to go on with the walk. A
composer that does not go on leaves out everything below the node.
-/

namespace MarkdownTree

/-- One thing a composer does with a claimed node. -/
inductive Action
  /-- Renders the children of the node. -/
  | children
  /-- Renders the node by the default rule. -/
  | default
  /-- Renders the node again. -/
  | self
  | firstChild
  | nextSibling
  /-- Renders one child, counted from zero. -/
  | child (index : Nat)
  /-- Renders the children of every child. -/
  | grandchildren
  /-- Renders the children, unless the node takes inline content. -/
  | blockChildren
  /-- Renders a node that is not there. -/
  | absent
  | report (kind : DiagnosticKind)
  /-- Shows the current depth as a run of text. -/
  | depth
  /-- Shows the number of diagnostics so far as a run of text. -/
  | diagnosticCount
  /-- Shows the inline content of the node. -/
  | text (fadeOut : Bool)
  /-- Shows the node as a table. -/
  | table
  /-- Makes a call that does not concern a node. -/
  | emit (call : Call)
deriving DecidableEq, Repr, Inhabited

/-- What is done with the nodes of each block type; `none` leaves them to the default rules. -/
structure Composer where
  actions : BlockType → Option (List Action)

/-- The composer that claims nothing. -/
def Composer.none : Composer := ⟨fun _ => Option.none⟩

end MarkdownTree
