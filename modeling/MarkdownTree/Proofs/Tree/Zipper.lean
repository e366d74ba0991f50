import MarkdownTree.Document.Builder
import MarkdownTree.Proofs.Tree.Arena

/-!
# Builders as zippers

A builder appends to the innermost of its open containers. Seen as a tree this is a zipper: each
open container has a kind and the trees that are already complete below it, and the next container
hangs behind these. The index arithmetic of the builder then disappears: appending a node is
appending a childless tree.

* `Zipper.builder` — the builder of a zipper, with every link of its array.
* `leaf_builder`, `openNode_builder`, `close_builder` — each operation of the builder is that of the
  zipper.
* `document_builder` — the document under construction is the tree with all containers closed.
-/

namespace MarkdownTree

/-- An open container and the trees that are complete below it. -/
structure Layer where
  kind : NodeKind
  done : List Tree
deriving Repr, Inhabited

/-- The current container and the ones around it, innermost first. -/
structure Zipper where
  layer : Layer
  outer : List Layer
deriving Repr, Inhabited

/-- The tree of a container that is closed. -/
def Layer.close (l : Layer) : Tree :=
  .node l.kind l.done

/-- Appends complete trees to a container. -/
def Layer.append (l : Layer) (ts : List Tree) : Layer :=
  { l with done := l.done ++ ts }

namespace Zipper

open MarkdownTree.Tree

/-- The zipper of a builder that holds only its root. -/
def new : Zipper :=
  ⟨⟨.block .document, []⟩, []⟩

/-- Appends complete trees to the current container. -/
def append (z : Zipper) (ts : List Tree) : Zipper :=
  { z with layer := z.layer.append ts }

/-- Opens a container below the current one. -/
def openNode (z : Zipper) (kind : NodeKind) : Zipper :=
  ⟨⟨kind, []⟩, z.layer :: z.outer⟩

/-- Closes the current container; the root stays open. -/
def close (z : Zipper) : Zipper :=
  match z.outer with
  | [] => z
  | l :: ls => ⟨l.append [z.layer.close], ls⟩

/-- Closes containers around a complete tree. -/
def plug (t : Tree) : List Layer → Tree
  | [] => t
  | l :: ls => plug (l.append [t]).close ls

/-- The tree when all containers are closed. -/
def tree (z : Zipper) : Tree :=
  plug z.layer.close z.outer

@[simp] theorem append_nil (z : Zipper) : z.append [] = z := by
  simp [append, Layer.append]

@[simp] theorem append_append (z : Zipper) (ts us : List Tree) :
    (z.append ts).append us = z.append (ts ++ us) := by
  simp [append, Layer.append]

@[simp] theorem layer_append_kind (z : Zipper) (ts : List Tree) :
    (z.append ts).layer.kind = z.layer.kind := rfl

@[simp] theorem layer_openNode_kind (z : Zipper) (kind : NodeKind) :
    (z.openNode kind).layer.kind = kind := rfl

/-- **A container that is opened, filled and closed is one complete tree.** -/
@[simp] theorem close_append_openNode (z : Zipper) (kind : NodeKind) (ts : List Tree) :
    ((z.openNode kind).append ts).close = z.append [.node kind ts] := rfl

theorem tree_close (z : Zipper) : z.close.tree = z.tree := by
  obtain ⟨l, outer⟩ := z
  cases outer <;> rfl

/-! ## The array of a zipper -/

/-- Where the numbering goes on inside of some open containers. -/
def offset : List Layer → NodeId
  | [] => 0
  | l :: ls => offset ls + 1 + sizes l.done

/-- The innermost of some open containers. -/
def parent : List Layer → Option NodeId
  | [] => none
  | _ :: ls => some (offset ls)

/-- The nodes of an open container and of what is complete below it. `inner` is the container
that is open behind that. -/
def layerNodes (inner : Option NodeId) (outer : List Layer) (l : Layer) : List Node :=
  headNode (parent outer) none inner (offset outer) l.kind l.done ::
    nodesAll (some (offset outer)) inner (offset outer + 1) l.done

/-- The nodes of the containers around the current one. -/
def outerNodes : List Layer → List Node
  | [] => []
  | l :: ls => outerNodes ls ++ layerNodes (some (offset (l :: ls))) ls l

/-- The nodes of a zipper. -/
def nodes (z : Zipper) : List Node :=
  outerNodes z.outer ++ layerNodes none z.outer z.layer

/-- The open containers below the root, innermost first. -/
def path : List Layer → List NodeId
  | [] => []
  | l :: ls => offset (l :: ls) :: path ls

/-- The builder of a zipper. -/
def builder (z : Zipper) : Builder :=
  ⟨⟨z.nodes.toArray⟩, path z.outer⟩

theorem builder_new : new.builder = Builder.new := rfl

theorem length_outerNodes : ∀ ls : List Layer, (outerNodes ls).length = offset ls
  | [] => rfl
  | l :: ls => by
    rw [outerNodes, List.length_append, length_outerNodes ls, layerNodes, List.length_cons,
      length_nodesAll, offset, Nat.add_assoc, Nat.add_comm 1]

theorem length_nodes (z : Zipper) : z.nodes.length = offset (z.layer :: z.outer) := by
  rw [nodes, List.length_append, length_outerNodes, layerNodes, List.length_cons,
    length_nodesAll, offset, Nat.add_assoc, Nat.add_comm 1]

@[simp] theorem current_builder (z : Zipper) : z.builder.current = offset z.outer := by
  obtain ⟨l, outer⟩ := z
  cases outer <;> rfl

/-- The node of the current container. -/
theorem getElem?_nodes (z : Zipper) :
    z.nodes[offset z.outer]? = some
      (headNode (parent z.outer) none none (offset z.outer) z.layer.kind z.layer.done) := by
  rw [nodes, List.getElem?_append_right (Nat.le_of_eq (length_outerNodes _)), length_outerNodes,
    Nat.sub_self, layerNodes, List.getElem?_cons_zero]

theorem get?_current (z : Zipper) :
    z.builder.document.get? (offset z.outer) = some
      (headNode (parent z.outer) none none (offset z.outer) z.layer.kind z.layer.done) := by
  simpa [Document.get?, builder] using z.getElem?_nodes

@[simp] theorem currentKind_builder (z : Zipper) : z.builder.currentKind = z.layer.kind := by
  rw [Builder.currentKind, current_builder, Document.kind, get?_current]
  rfl

/-! ## Closing a container -/

/-- An open container behind the complete trees of another one has the same nodes as one more
complete tree. -/
theorem layerNodes_concat (l : Layer) (outer : List Layer) (t : Tree) :
    layerNodes none outer (l.append [t]) =
      layerNodes (some (offset (l :: outer))) outer l ++
        t.nodes (some (offset outer)) none (offset (l :: outer)) := by
  rw [layerNodes, layerNodes, Layer.append, List.cons_append, nodesAll_concat, headNode, headNode,
    firstId_concat, lastId_concat]
  rfl

theorem nodes_close (z : Zipper) : z.close.nodes = z.nodes := by
  obtain ⟨l, outer⟩ := z
  cases outer with
  | nil => rfl
  | cons o outer =>
    rw [nodes, nodes, outerNodes, List.append_assoc]
    exact congrArg (outerNodes outer ++ ·) (layerNodes_concat o outer l.close)

@[simp] theorem close_builder (z : Zipper) : z.builder.close = z.close.builder := by
  rw [builder, builder, nodes_close, Builder.close]
  obtain ⟨l, outer⟩ := z
  cases outer <;> rfl

/-- Closing the innermost container leaves the document as it is. -/
theorem document_close (l o : Layer) (outer : List Layer) :
    (builder ⟨l, o :: outer⟩).document = (builder ⟨o.append [l.close], outer⟩).document := by
  have h := congrArg Builder.document (close_builder ⟨l, o :: outer⟩)
  exact h

/-- **The document under construction is the tree with all containers closed.** -/
@[simp] theorem document_builder (z : Zipper) : z.builder.document = z.tree.document := by
  obtain ⟨l, outer⟩ := z
  induction outer generalizing l with
  | nil => rfl
  | cons o outer ih =>
    -- closing the innermost container changes neither the array nor the tree
    have hclose : (⟨l, o :: outer⟩ : Zipper).close = ⟨o.append [l.close], outer⟩ := rfl
    rw [← tree_close, hclose, ← ih, ← hclose, ← close_builder]
    rfl

/-! ## Appending a node -/

theorem modify_append_cons {α : Type} (f : α → α) (x : α) (post : List α) :
    ∀ pre : List α, (pre ++ x :: post).modify pre.length f = pre ++ f x :: post
  | [] => by rw [List.nil_append, List.length_nil, List.modify_zero_cons, List.nil_append]
  | y :: pre => by
    rw [List.cons_append, List.length_cons, List.modify_succ_cons, modify_append_cons f x post pre,
      List.cons_append]

/-- A tree is given its next sibling by changing its first node only. -/
theorem nodes_next (parent next : Option NodeId) (id : NodeId) (t : Tree) :
    ∃ n rest, t.nodes parent none id = n :: rest ∧
      t.nodes parent next id = { n with nextSibling := next } :: rest := by
  cases t with
  | node k cs => exact ⟨_, _, rfl, rfl⟩

theorem attach_toList {nodes : Array Node} {parent id : NodeId} {n : Node}
    (h : nodes[parent]? = some n) :
    (Builder.attach nodes parent id).toList =
      (match n.lastChild with
        | some previous => nodes.toList.modify previous fun n => { n with nextSibling := some id }
        | none => nodes.toList.modify parent fun n => { n with firstChild := some id }).modify
          parent fun n => { n with lastChild := some id } := by
  obtain ⟨kind, parent', firstChild, lastChild, nextSibling⟩ := n
  rw [Builder.attach, h, Array.toList_modify]
  cases lastChild <;> simp

/-- Linking a new node behind the complete trees of the current container. -/
theorem attach_nodes (z : Zipper) (n : Node) :
    (Builder.attach (z.nodes ++ [n]).toArray (offset z.outer) z.nodes.length).toList =
      outerNodes z.outer ++ (layerNodes (some z.nodes.length) z.outer z.layer ++ [n]) := by
  obtain ⟨⟨kind, done⟩, outer⟩ := z
  have hget := getElem?_nodes ⟨⟨kind, done⟩, outer⟩
  have hlen := length_outerNodes outer
  generalize hid : (nodes ⟨⟨kind, done⟩, outer⟩).length = id
  rw [attach_toList (by
    rw [List.getElem?_toArray, List.getElem?_append_left (List.getElem?_eq_some_iff.mp hget).1]
    exact hget)]
  rcases List.eq_nil_or_concat done with rfl | ⟨ts, t, rfl⟩
  · -- the new node is the first child
    simp only [headNode, lastId, nodes, layerNodes, nodesAll, firstId]
    simp only [Option.orElse_eq_orElse, Option.orElse_none, List.append_assoc, List.cons_append,
      List.nil_append, ← hlen, modify_append_cons, Option.orElse_some]
  · -- the new node is the next sibling of the last complete tree
    obtain ⟨u, rest, hnone, hsome⟩ :=
      nodes_next (some (offset outer)) (some id) (offset outer + 1 + sizes ts) t
    let head := headNode (parent outer) none none (offset outer) kind (ts ++ [t])
    let before := nodesAll (some (offset outer)) (some (offset outer + 1 + sizes ts))
      (offset outer + 1) ts
    have hprev : (outerNodes outer ++ head :: before).length = offset outer + 1 + sizes ts := by
      rw [List.length_append, List.length_cons, length_nodesAll, hlen, Nat.add_assoc,
        Nat.add_comm 1]
    have hnodes : nodes ⟨⟨kind, ts ++ [t]⟩, outer⟩ ++ [n] =
        (outerNodes outer ++ head :: before) ++ u :: (rest ++ [n]) := by
      rw [nodes, layerNodes, nodesAll_concat, hnone]
      simp [head, before]
    simp only [headNode, List.concat_eq_append, lastId_concat, Option.orElse_eq_orElse,
      Option.orElse_none, hnodes]
    rw [← hprev, modify_append_cons, List.append_assoc, List.cons_append, ← hlen,
      modify_append_cons, layerNodes, nodesAll_concat, hsome, headNode]
    simp [head, before, headNode]

@[simp] theorem leaf_builder (z : Zipper) (kind : NodeKind) :
    z.builder.leaf kind = (z.append [.node kind []]).builder := by
  have hsize : z.builder.document.size = z.nodes.length := by simp [builder, Document.size]
  have hattach := z.attach_nodes { kind, parent := some (offset z.outer) }
  have hlayer : (z.append [.node kind []]).nodes =
      outerNodes z.outer ++ (layerNodes (some z.nodes.length) z.outer z.layer ++
        [{ kind, parent := some (offset z.outer) }]) := by
    rw [nodes, length_nodes]
    exact congrArg (outerNodes z.outer ++ ·) (layerNodes_concat z.layer z.outer (.node kind []))
  rw [Builder.leaf, current_builder, hsize, builder, builder, hlayer, ← hattach]
  simp [append]

@[simp] theorem openNode_builder (z : Zipper) (kind : NodeKind) :
    z.builder.openNode kind = (z.openNode kind).builder := by
  -- a container that was just opened has the same nodes as a childless tree
  have hclose : ((z.openNode kind).append []).close = z.append [.node kind []] := rfl
  rw [Builder.openNode, leaf_builder, ← hclose, append_nil, builder, builder, nodes_close]
  have hsize : (z.openNode kind).nodes.length - 1 = offset (z.layer :: z.outer) := by
    simp [length_nodes, openNode, offset, sizes]
  simp only [Document.size, List.size_toArray, hsize]
  rfl

end Zipper

/-! ## Runs of a builder -/

namespace Builder

/-- One operation on a builder. -/
inductive Operation
  | leaf (kind : NodeKind)
  | openNode (kind : NodeKind)
  | close
deriving DecidableEq, Repr, Inhabited

/-- Performs an operation. -/
def perform (b : Builder) : Operation → Builder
  | .leaf kind => b.leaf kind
  | .openNode kind => b.openNode kind
  | .close => b.close

/-- The builder after some operations, from the one that holds only its root. -/
def run (operations : List Operation) : Builder :=
  operations.foldl perform new

theorem exists_zipper_perform (z : Zipper) (operation : Operation) :
    ∃ z' : Zipper, z.builder.perform operation = z'.builder := by
  cases operation with
  | leaf kind => exact ⟨_, Zipper.leaf_builder z kind⟩
  | openNode kind => exact ⟨_, Zipper.openNode_builder z kind⟩
  | close => exact ⟨_, Zipper.close_builder z⟩

/-- Every builder that operations lead to is that of a zipper. -/
theorem exists_zipper_run (operations : List Operation) :
    ∃ z : Zipper, run operations = z.builder := by
  have hfold : ∀ (operations : List Operation) (z : Zipper),
      ∃ z' : Zipper, operations.foldl perform z.builder = z'.builder := by
    intro operations
    induction operations with
    | nil => exact fun z => ⟨z, rfl⟩
    | cons operation operations ih =>
      intro z
      obtain ⟨z', hz'⟩ := exists_zipper_perform z operation
      rw [List.foldl_cons, hz']
      exact ih z'
  exact hfold operations .new

/-- **Every document that operations lead to is the document of its tree.** -/
theorem document_run (operations : List Operation) :
    (run operations).document = (run operations).document.tree.document := by
  obtain ⟨z, hz⟩ := exists_zipper_run operations
  rw [hz, Zipper.document_builder, Tree.tree_document]

end Builder

end MarkdownTree
