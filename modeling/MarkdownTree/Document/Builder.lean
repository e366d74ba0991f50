import MarkdownTree.Document.Basic

/-!
# Building documents

A builder appends nodes under the container that is currently open. `openNode` appends a node and
makes it the container, `close` returns to its parent. Closing the root is ignored, and containers
still open at the end need no closing.
-/

namespace MarkdownTree

/-- A document under construction. `path` holds the open containers below the root, innermost
first. -/
structure Builder where
  document : Document
  path : List NodeId
deriving DecidableEq, Repr, Inhabited

namespace Builder

/-- A builder whose document holds only its root. -/
def new : Builder :=
  ⟨.empty, []⟩

/-- The container that receives the next node. -/
def current (b : Builder) : NodeId :=
  b.path.headD 0

/-- The kind of the current container. -/
def currentKind (b : Builder) : NodeKind :=
  b.document.kind b.current

/-- Number of open containers, the root included. -/
def depth (b : Builder) : Nat :=
  b.path.length + 1

/-- Hangs the node `id` in as the last child of `parent`. -/
def attach (nodes : Array Node) (parent id : NodeId) : Array Node :=
  let nodes := match nodes[parent]? with
    | some { lastChild := some previous, .. } =>
      nodes.modify previous fun n => { n with nextSibling := some id }
    | _ => nodes.modify parent fun n => { n with firstChild := some id }
  nodes.modify parent fun n => { n with lastChild := some id }

/-- Appends a childless node under the current container. -/
def leaf (b : Builder) (kind : NodeKind) : Builder :=
  let id := b.document.size
  let nodes := b.document.nodes.push { kind, parent := some b.current }
  { b with document := ⟨attach nodes b.current id⟩ }

/-- Appends a node under the current container and descends into it. -/
def openNode (b : Builder) (kind : NodeKind) : Builder :=
  let b := b.leaf kind
  { b with path := (b.document.size - 1) :: b.path }

/-- Returns to the parent of the current container. -/
def close (b : Builder) : Builder :=
  { b with path := b.path.tail }

end Builder

end MarkdownTree
