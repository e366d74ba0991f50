import MarkdownTree.Node.Kind

/-!
# Documents

A document keeps its nodes in one array, in creation order, with the root first. Nodes refer to
each other by index: parent, first child, last child and next sibling, so the children of a node
form a singly linked chain.

Walks along a chain take at most as many steps as there are nodes.
-/

namespace MarkdownTree

/-- Position of a node in its document. The root is `0`. Positions have no bound here. Numbers of 32
bits would saturate: from `2 ^ 32` nodes on, several nodes would have the number `2 ^ 32 - 1`. -/
abbrev NodeId := Nat

/-- A node and its links. -/
structure Node where
  kind : NodeKind
  parent : Option NodeId
  firstChild : Option NodeId := none
  lastChild : Option NodeId := none
  nextSibling : Option NodeId := none
deriving DecidableEq, Repr, Inhabited

/-- A tree of nodes in creation order. -/
structure Document where
  nodes : Array Node
deriving DecidableEq, Repr, Inhabited

namespace Document

/-- The document that holds only its root. -/
def empty : Document :=
  ⟨#[{ kind := .block .document, parent := none }]⟩

/-- Number of nodes, the root included. -/
def size (doc : Document) : Nat :=
  doc.nodes.size

/-- Whether nothing but the root is there. -/
def isEmpty (doc : Document) : Bool :=
  doc.size ≤ 1

/-- All nodes in creation order. -/
def iter (doc : Document) : List NodeId :=
  List.range doc.size

/-- The node at `id`. -/
def get? (doc : Document) (id : NodeId) : Option Node :=
  doc.nodes[id]?

/-- The kind of the node at `id`; outside of the document, that of the root. -/
def kind (doc : Document) (id : NodeId) : NodeKind :=
  match doc.get? id with
  | some n => n.kind
  | none => .block .document

/-- The parent of a node. -/
def parent? (doc : Document) (id : NodeId) : Option NodeId :=
  (doc.get? id).bind (·.parent)

/-- The first child of a node. -/
def firstChild? (doc : Document) (id : NodeId) : Option NodeId :=
  (doc.get? id).bind (·.firstChild)

/-- The next child of the same parent. -/
def nextSibling? (doc : Document) (id : NodeId) : Option NodeId :=
  (doc.get? id).bind (·.nextSibling)

/-- The chain of siblings that starts at a node, at most `bound` of them. -/
def chain (doc : Document) : Nat → Option NodeId → List NodeId
  | 0, _ => []
  | _, none => []
  | bound + 1, some id => id :: doc.chain bound (doc.nextSibling? id)

/-- The children of a node in document order. -/
def children (doc : Document) (id : NodeId) : List NodeId :=
  doc.chain doc.size (doc.firstChild? id)

/-- Whether a node has no children. -/
def isLeaf (doc : Document) (id : NodeId) : Bool :=
  (doc.firstChild? id).isNone

/-- Replaces the kind of one node. -/
def setKind (doc : Document) (id : NodeId) (kind : NodeKind) : Document :=
  ⟨doc.nodes.modify id fun n => { n with kind }⟩

end Document

end MarkdownTree
