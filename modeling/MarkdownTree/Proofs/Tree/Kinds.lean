import MarkdownTree.Proofs.Tree.Enriched

/-!
# Kinds in document order, and trees without their definitions

A tree that enriches another one has the same nodes with some definitions between them. Where no
node is marked, leaving out the definitions gives the other tree back.

* `Tree.kinds`, `Tree.subtrees` — the nodes of a tree in document order, as kinds and as trees.
* `Tree.erase` — a tree without its link reference definitions.
* `map_kind_nodes` — the array of a tree has its kinds in document order.
* `Zipper.kinds_tree_append`, `kinds_tree_openNode` — what is built comes behind all that is there.
* `Builder.kinds_run_append` — the nodes that are there keep their kinds.
* `Enriches.erase_eq` — a tree without its definitions is the tree that it enriches.
* `Enriches.definition_child` — definitions have nothing below them and stand where they may.
-/

namespace MarkdownTree

/-- Whether a node is a link reference definition. -/
def NodeKind.isDefinition : NodeKind → Bool
  | .block (.linkReferenceDefinition _ _ _) => true
  | _ => false

theorem NodeKind.isDefinition_plain (k : NodeKind) : k.plain.isDefinition = k.isDefinition :=
  apply_plain (fun _ => rfl) k

namespace Tree

mutual

/-- The kinds of the nodes in document order. -/
def kinds : Tree → List NodeKind
  | node k cs => k :: kindsAll cs

/-- The kinds of the nodes of some trees in document order. -/
def kindsAll : List Tree → List NodeKind
  | [] => []
  | t :: ts => t.kinds ++ kindsAll ts

end

mutual

/-- The tree below each node, in document order. -/
def subtrees : Tree → List Tree
  | node k cs => .node k cs :: subtreesAll cs

/-- The tree below each node of some trees, in document order. -/
def subtreesAll : List Tree → List Tree
  | [] => []
  | t :: ts => t.subtrees ++ subtreesAll ts

end

mutual

/-- A tree without the link reference definitions below its topmost node. -/
def erase : Tree → Tree
  | node k cs => .node k (eraseAll cs)

/-- Sibling trees without their link reference definitions. -/
def eraseAll : List Tree → List Tree
  | [] => []
  | t :: ts => if t.kind.isDefinition then eraseAll ts else t.erase :: eraseAll ts

end

theorem kindsAll_append : ∀ ts us : List Tree, kindsAll (ts ++ us) = kindsAll ts ++ kindsAll us
  | [], _ => rfl
  | t :: ts, us => by
    rw [List.cons_append, kindsAll, kindsAll_append ts us, kindsAll, List.append_assoc]

theorem head?_kinds (t : Tree) : t.kinds.head? = some t.kind := by
  cases t
  rfl

theorem kind_mem_kinds (t : Tree) : t.kind ∈ t.kinds :=
  List.mem_of_head? t.head?_kinds

/-- Link reference definitions occur neither at the top nor below it. -/
def Undefined (t : Tree) : Prop :=
  ∀ k ∈ t.kinds, k.isDefinition = false

/-- No paragraph is marked. -/
def Unmarked (t : Tree) : Prop :=
  ∀ k ∈ t.kinds, k.plain = k

/-! ## The array of a tree -/

mutual

/-- **The array of a tree has its kinds in document order.** -/
theorem map_kind_nodes : ∀ (t : Tree) (parent next : Option NodeId) (id : NodeId),
    (t.nodes parent next id).map Node.kind = t.kinds
  | node k cs, parent, next, id => by
    rw [nodes, List.map_cons, map_kind_nodesAll cs, kinds]
    rfl

theorem map_kind_nodesAll : ∀ (ts : List Tree) (parent next : Option NodeId) (id : NodeId),
    (nodesAll parent next id ts).map Node.kind = kindsAll ts
  | [], _, _, _ => rfl
  | t :: ts, parent, next, id => by
    rw [nodesAll, List.map_append, map_kind_nodes t, map_kind_nodesAll ts, kindsAll]

end

end Tree

/-- The kinds of the nodes of a document in creation order. -/
def Document.kinds (doc : Document) : List NodeKind :=
  doc.nodes.toList.map Node.kind

theorem Tree.kinds_document (t : Tree) : t.document.kinds = t.kinds :=
  t.map_kind_nodes none none 0

/-! ## Trees under construction -/

namespace Zipper

open MarkdownTree.Tree

/-- The kinds of the containers around the current one, and of what is complete in them. -/
def outerKinds : List Layer → List NodeKind
  | [] => []
  | l :: ls => outerKinds ls ++ l.kind :: kindsAll l.done

theorem kinds_plug : ∀ (ls : List Layer) (t : Tree), (plug t ls).kinds = outerKinds ls ++ t.kinds
  | [], _ => rfl
  | l :: ls, t => by
    rw [plug, kinds_plug ls, outerKinds, Layer.close, Layer.append, kinds, kindsAll_append,
      kindsAll, kindsAll, List.append_nil, List.append_assoc, List.cons_append]

theorem kinds_tree (z : Zipper) :
    z.tree.kinds = outerKinds z.outer ++ z.layer.kind :: kindsAll z.layer.done := by
  rw [tree, kinds_plug, Layer.close, kinds]

/-- **Nodes are appended behind all others.** -/
theorem kinds_tree_append (z : Zipper) (ts : List Tree) :
    (z.append ts).tree.kinds = z.tree.kinds ++ kindsAll ts := by
  rw [kinds_tree, kinds_tree, append, Layer.append, kindsAll_append, List.append_assoc,
    List.cons_append]

theorem kinds_tree_openNode (z : Zipper) (k : NodeKind) :
    (z.openNode k).tree.kinds = z.tree.kinds ++ [k] := by
  rw [kinds_tree, kinds_tree]
  rfl

end Zipper

theorem Document.kind_of_getElem?_kinds {doc : Document} {id : NodeId} {k : NodeKind}
    (h : doc.kinds[id]? = some k) : doc.kind id = k := by
  rw [kinds, List.getElem?_map, Option.map_eq_some_iff] at h
  obtain ⟨n, hn, rfl⟩ := h
  rw [Array.getElem?_toList] at hn
  rw [kind, get?, hn]

namespace Builder

theorem kinds_perform (z : Zipper) (operation : Operation) :
    z.builder.document.kinds <+: (z.builder.perform operation).document.kinds := by
  cases operation with
  | leaf kind =>
    rw [perform, Zipper.leaf_builder, Zipper.document_builder, Zipper.document_builder,
      Tree.kinds_document, Tree.kinds_document, Zipper.kinds_tree_append]
    exact List.prefix_append _ _
  | openNode kind =>
    rw [perform, Zipper.openNode_builder, Zipper.document_builder, Zipper.document_builder,
      Tree.kinds_document, Tree.kinds_document, Zipper.kinds_tree_openNode]
    exact List.prefix_append _ _
  | close => exact List.prefix_refl _

theorem run_concat (operations : List Operation) (operation : Operation) :
    run (operations ++ [operation]) = (run operations).perform operation :=
  List.foldl_concat perform new operation operations

/-- **Later operations leave the nodes that are there with their kinds and their numbers.** -/
theorem kinds_run_append (operations later : List Operation) :
    (run operations).document.kinds <+: (run (operations ++ later)).document.kinds := by
  induction later generalizing operations with
  | nil => simp
  | cons operation later ih =>
    have hrest := ih (operations ++ [operation])
    rw [List.append_assoc, List.singleton_append] at hrest
    obtain ⟨z, hz⟩ := exists_zipper_run operations
    have hstep := kinds_perform z operation
    rw [← hz, ← run_concat] at hstep
    exact hstep.trans hrest

/-- The root is the document node. -/
theorem kind_root (operations : List Operation) :
    (run operations).document.kind 0 = .block .document := by
  obtain ⟨rest, hrest⟩ := kinds_run_append [] operations
  refine Document.kind_of_getElem?_kinds ?_
  rw [List.nil_append] at hrest
  rw [← hrest]
  rfl

end Builder

/-! ## Leaving out the definitions -/

namespace Tree

theorem Enriches.plain_kind {t u : Tree} (h : t.Enriches u) : t.kind.plain = u.kind.plain := by
  cases h with
  | node hk _ => exact hk

theorem Enriches.isDefinition_kind {t u : Tree} (h : t.Enriches u) :
    t.kind.isDefinition = u.kind.isDefinition := by
  rw [← NodeKind.isDefinition_plain, h.plain_kind, NodeKind.isDefinition_plain]

/-- Whether the topmost node is no definition, seen on the tree that is enriched. -/
theorem Enriches.isDefinition_eq_false {t u : Tree} (h : t.Enriches u) (hu : u.Undefined) :
    t.kind.isDefinition = false := by
  rw [h.isDefinition_kind]
  exact hu _ u.kind_mem_kinds

mutual

/-- **Without its definitions a tree is the one that it enriches.** -/
theorem Enriches.erase_eq : ∀ {t u : Tree}, t.Enriches u → t.Unmarked → u.Unmarked →
    u.Undefined → t.erase = u
  | .node k cs, .node k' cs', .node hk hcs, ht, hu, hdef => by
    have hkind : k = k' := by
      rw [← ht k List.mem_cons_self, hk, hu k' List.mem_cons_self]
    rw [erase, hkind, EnrichesAll.eraseAll_eq hcs (List.forall_mem_cons.mp ht).2
      (List.forall_mem_cons.mp hu).2 (List.forall_mem_cons.mp hdef).2]

theorem EnrichesAll.eraseAll_eq : ∀ {accepts : Bool} {ts us : List Tree},
    EnrichesAll accepts ts us → (∀ k ∈ kindsAll ts, k.plain = k) →
    (∀ k ∈ kindsAll us, k.plain = k) → (∀ k ∈ kindsAll us, k.isDefinition = false) →
    eraseAll ts = us
  | _, _, _, .nil, _, _, _ => rfl
  | _, t :: ts, u :: us, .cons h hs, ht, hu, hdef => by
    obtain ⟨ht, hts⟩ := List.forall_mem_append.mp ht
    obtain ⟨hu, hus⟩ := List.forall_mem_append.mp hu
    obtain ⟨hdef, hdefs⟩ := List.forall_mem_append.mp hdef
    rw [eraseAll, h.isDefinition_eq_false hdef, h.erase_eq ht hu hdef,
      EnrichesAll.eraseAll_eq hs hts hus hdefs]
    rfl
  | _, _, _, .definition label destination title hs, ht, hu, hdef => by
    rw [eraseAll]
    exact EnrichesAll.eraseAll_eq hs (List.forall_mem_append.mp ht).2 hu hdef

end

/-- What is true of every definition: nothing is below it, and it stands under a node that accepts
definitions. -/
def DefinitionChild (u : Tree) : Prop :=
  ∀ c ∈ u.children, c.kind.isDefinition = true → c.children = [] ∧ u.kind.acceptsDefinitions = true

/-- The children of one node. -/
theorem EnrichesAll.definition_child {accepts : Bool} {ts us : List Tree}
    (h : EnrichesAll accepts ts us) (hdef : ∀ k ∈ kindsAll us, k.isDefinition = false) :
    ∀ c ∈ ts, c.kind.isDefinition = true → c.children = [] ∧ accepts = true := by
  intro c hc hkind
  induction ts generalizing us with
  | nil => cases hc
  | cons t ts ih =>
    cases h with
    | cons ht hs =>
      obtain ⟨hdef, hdefs⟩ := List.forall_mem_append.mp hdef
      rcases List.mem_cons.mp hc with rfl | hc
      · -- a node of the tree that is enriched is no definition
        rw [ht.isDefinition_eq_false hdef] at hkind
        cases hkind
      · exact ih hs hdefs hc
    | definition label destination title hs =>
      rcases List.mem_cons.mp hc with rfl | hc
      · exact ⟨rfl, rfl⟩
      · exact ih hs hdef hc

mutual

/-- **Definitions have nothing below them and stand under nodes that accept definitions.** -/
theorem Enriches.definition_child : ∀ {t u : Tree}, t.Enriches u → u.Undefined →
    ∀ w ∈ t.subtrees, w.DefinitionChild
  | .node k cs, .node k' cs', .node hk hcs, hdef => by
    have hdefs := (List.forall_mem_cons.mp hdef).2
    intro w hw
    rcases List.mem_cons.mp hw with rfl | hw
    · exact EnrichesAll.definition_child hcs hdefs
    · exact EnrichesAll.definition_child_subtrees hcs hdefs w hw

theorem EnrichesAll.definition_child_subtrees : ∀ {accepts : Bool} {ts us : List Tree},
    EnrichesAll accepts ts us → (∀ k ∈ kindsAll us, k.isDefinition = false) →
    ∀ w ∈ subtreesAll ts, w.DefinitionChild
  | _, _, _, .nil, _ => by
    intro w hw
    cases hw
  | _, _, _, .cons h hs, hdef => by
    obtain ⟨hdef, hdefs⟩ := List.forall_mem_append.mp hdef
    intro w hw
    rcases List.mem_append.mp hw with hw | hw
    · exact h.definition_child hdef w hw
    · exact EnrichesAll.definition_child_subtrees hs hdefs w hw
  | _, _, _, .definition label destination title hs, hdef => by
    intro w hw
    rcases List.mem_append.mp hw with hw | hw
    · -- a definition is a leaf
      cases List.mem_singleton.mp hw
      intro c hc
      cases hc
    · exact EnrichesAll.definition_child_subtrees hs hdef w hw

end

end Tree

end MarkdownTree
