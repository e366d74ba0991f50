import MarkdownTree.Proofs.Tree.Kinds
import MarkdownTree.Proofs.Tree.Walk

/-!
# Nodes and their subtrees

In the document of a tree every node holds a tree of its own. In document order these are the
subtrees of the whole, so what is said of all subtrees is said of all nodes.

* `Tree.subtreesAll_append`, `map_kind_subtrees` — the subtrees of a tree and their kinds.
* `Document.subtree` — the tree below a node.
* `Placed.forall₂_holds` — the numbers of a stretch hold the subtrees of its tree, one by one.
* `Tree.holds_subtree`, `Tree.forall₂_holds_document` — the same for a whole document.
* `Enriches.forall₂_subtrees` — definitions and marks leave the subtrees of some kinds in order.
-/

namespace MarkdownTree

namespace Tree

theorem subtreesAll_append : ∀ ts us : List Tree,
    subtreesAll (ts ++ us) = subtreesAll ts ++ subtreesAll us
  | [], _ => rfl
  | t :: ts, us => by
    rw [List.cons_append, subtreesAll, subtreesAll_append ts us, subtreesAll, List.append_assoc]

mutual

theorem map_kind_subtrees : ∀ t : Tree, t.subtrees.map kind = t.kinds
  | node k cs => by
    rw [subtrees, List.map_cons, map_kind_subtreesAll cs, kinds]
    rfl

theorem map_kind_subtreesAll : ∀ ts : List Tree, (subtreesAll ts).map kind = kindsAll ts
  | [] => rfl
  | t :: ts => by
    rw [subtreesAll, List.map_append, map_kind_subtrees t, map_kind_subtreesAll ts, kindsAll]

end

end Tree

namespace Document

/-- The tree below a node, read along the chains of siblings. -/
def subtree (doc : Document) (id : NodeId) : Tree :=
  doc.treeAt doc.size id

/-! ## Trees in place -/

mutual

theorem Placed.shows {doc : Document} : ∀ {t : Tree} {parent next : Option NodeId} {id : NodeId},
    doc.Placed parent next id t → doc.Shows id t
  | .node k cs, parent, next, id, h => by
    have hkind : doc.kind id = k := by simp [kind, h.1, Tree.headNode]
    refine ⟨hkind, h.linked_children, ?_⟩
    rw [h.children_eq]
    exact PlacedAll.showsAll h.2

theorem PlacedAll.showsAll {doc : Document} : ∀ {ts : List Tree} {parent : Option NodeId}
    {id : NodeId}, doc.PlacedAll parent id ts → doc.ShowsAll (Tree.ids id ts) ts
  | [], _, _, _ => trivial
  | _ :: _, _, _, h => ⟨Placed.shows h.1, PlacedAll.showsAll h.2⟩

end

theorem Placed.holds {doc : Document} {t : Tree} {parent next : Option NodeId} {id : Nat}
    (h : doc.Placed parent next id t) : doc.Holds id t where
  shows := h.shows
  size_le := Nat.le_trans (Nat.le_add_left t.size id) h.le_size

mutual

/-- **The numbers of a stretch hold the subtrees of its tree**, one by one. -/
theorem Placed.forall₂_holds {doc : Document} : ∀ {t : Tree} {parent next : Option NodeId}
    {id : Nat}, doc.Placed parent next id t →
      List.Forall₂ doc.Holds (List.range' id t.size) t.subtrees
  | .node k cs, parent, next, id, h => by
    rw [Tree.size, List.range'_succ, Tree.subtrees]
    exact .cons h.holds (PlacedAll.forall₂_holds h.2)

theorem PlacedAll.forall₂_holds {doc : Document} : ∀ {ts : List Tree} {parent : Option NodeId}
    {id : Nat}, doc.PlacedAll parent id ts →
      List.Forall₂ doc.Holds (List.range' id (Tree.sizes ts)) (Tree.subtreesAll ts)
  | [], _, _, _ => .nil
  | t :: ts, parent, id, h => by
    rw [Tree.sizes, Tree.subtreesAll, ← List.range'_append_1]
    exact List.rel_append (Placed.forall₂_holds h.1) (PlacedAll.forall₂_holds h.2)

end

theorem Holds.subtree_eq {doc : Document} {id : NodeId} {t : Tree} (h : doc.Holds id t) :
    doc.subtree id = t :=
  h.shows.treeAt_eq h.height_le

end Document

/-! ## The document of a tree -/

namespace Tree

open Document

/-- **The nodes of a document hold the subtrees of its tree**, in order. -/
theorem forall₂_holds_document (t : Tree) :
    List.Forall₂ t.document.Holds t.document.iter t.subtrees := by
  have h := t.placed_document.forall₂_holds
  rwa [← List.range_eq_range', ← size_document] at h

/-- Every node holds its tree. Outside of the document there are no children. -/
theorem holds_subtree (t : Tree) (id : NodeId) :
    t.document.Holds id (t.document.subtree id) := by
  by_cases hid : id < t.document.size
  · obtain ⟨⟨_, _, u, hplaced⟩, -⟩ := exists_placed_document hid
    rw [hplaced.holds.subtree_eq]
    exact hplaced.holds
  · have hnil := children_eq_nil hid
    have hleaf : t.document.Holds id (.node (t.document.kind id) []) := by
      have hsize : 0 < t.document.size := t.placed_document.lt_size
      refine ⟨⟨rfl, ?_⟩, hsize⟩
      rw [hnil, firstChild?_eq_none hid]
      exact ⟨.nil, trivial⟩
    rw [hleaf.subtree_eq]
    exact hleaf

/-- Every node of a document that operations lead to holds its tree. -/
theorem holds_subtree_run (operations : List Builder.Operation) (id : NodeId) :
    (Builder.run operations).document.Holds id
      ((Builder.run operations).document.subtree id) := by
  have hholds := (Builder.run operations).document.tree.holds_subtree id
  rwa [← Builder.document_run operations] at hholds

/-! ## Subtrees of some kinds -/

section

variable {p : NodeKind → Bool}

mutual

/-- **Definitions and marks leave the subtrees of some kinds in their order**, if definitions are
not among these and marks do not matter. -/
theorem Enriches.forall₂_subtrees (hplain : ∀ k, p k.plain = p k)
    (hdef : ∀ k, k.isDefinition = true → p k = false) : ∀ {t u : Tree}, t.Enriches u →
      List.Forall₂ Enriches (t.subtrees.filter fun w => p w.kind)
        (u.subtrees.filter fun w => p w.kind)
  | .node k cs, .node k' cs', .node hk hcs => by
    have hbelow := EnrichesAll.forall₂_subtrees hplain hdef hcs
    have hp : p k = p k' := by rw [← hplain, hk, hplain]
    simp only [subtrees, List.filter_cons, kind, hp]
    split
    · exact .cons (.node hk hcs) hbelow
    · exact hbelow

theorem EnrichesAll.forall₂_subtrees (hplain : ∀ k, p k.plain = p k)
    (hdef : ∀ k, k.isDefinition = true → p k = false) : ∀ {accepts : Bool} {ts us : List Tree},
      EnrichesAll accepts ts us →
        List.Forall₂ Enriches ((subtreesAll ts).filter fun w => p w.kind)
          ((subtreesAll us).filter fun w => p w.kind)
  | _, _, _, .nil => .nil
  | _, _, _, .cons h hs => by
    rw [subtreesAll, subtreesAll, List.filter_append, List.filter_append]
    exact List.rel_append (Enriches.forall₂_subtrees hplain hdef h)
      (EnrichesAll.forall₂_subtrees hplain hdef hs)
  | _, _, _, .definition label destination title hs => by
    have hnone : p (.block (.linkReferenceDefinition label destination title)) = false :=
      hdef _ rfl
    simp only [subtreesAll, definition, subtrees, List.filter_append, List.filter_cons, kind, hnone]
    exact EnrichesAll.forall₂_subtrees hplain hdef hs

end

end

end Tree

end MarkdownTree
