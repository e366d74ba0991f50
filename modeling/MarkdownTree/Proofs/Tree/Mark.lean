import MarkdownTree.Document.Assembly
import MarkdownTree.Proofs.Tree.Kinds

/-!
# The paragraph that comes last

In the array of a tree, the paragraph that was created last is the last one in document order.
Marking it is an operation on the tree, and leaving out definitions does not disturb it.

* `Tree.MarksLast` — the same tree with its last paragraph marked.
* `Tree.exists_marksLast` — there is such a tree, or there is no paragraph.
* `MarksLast.document` — marking the trailing paragraph of a document is marking that of its tree.
* `MarksLast.enriches`, `MarksLast.erase` — the mark keeps what the tree enriches, and stays when
  the definitions are left out.
-/

namespace MarkdownTree

/-- Whether none of some kinds is a paragraph. -/
def NoParagraph (ks : List NodeKind) : Prop :=
  ∀ k ∈ ks, k.isParagraph = false

namespace Tree

mutual

/-- `t.MarksLast t'`: the tree `t'` is `t` with the paragraph marked that comes last in document
order. -/
inductive MarksLast : Tree → Tree → Prop
  | paragraph {k : NodeKind} {cs : List Tree} : k.isParagraph = true → NoParagraph (kindsAll cs) →
      MarksLast (.node k cs) (.node (.block (.paragraph true)) cs)
  | inside {k : NodeKind} {cs cs' : List Tree} : MarksLastAll cs cs' →
      MarksLast (.node k cs) (.node k cs')

/-- The same for siblings. -/
inductive MarksLastAll : List Tree → List Tree → Prop
  | last {t t' : Tree} {ts : List Tree} : MarksLast t t' → NoParagraph (kindsAll ts) →
      MarksLastAll (t :: ts) (t' :: ts)
  | later {t : Tree} {ts ts' : List Tree} : MarksLastAll ts ts' →
      MarksLastAll (t :: ts) (t :: ts')

end

mutual

/-- **Either there is a last paragraph or there is none at all.** -/
theorem exists_marksLast : ∀ t : Tree, (∃ t', t.MarksLast t') ∨ NoParagraph t.kinds
  | node k cs => by
    rcases exists_marksLastAll cs with ⟨cs', h⟩ | hcs
    · exact .inl ⟨_, .inside h⟩
    · cases hk : k.isParagraph with
      | true => exact .inl ⟨_, .paragraph hk hcs⟩
      | false => exact .inr (List.forall_mem_cons.mpr ⟨hk, hcs⟩)

theorem exists_marksLastAll : ∀ ts : List Tree,
    (∃ ts', MarksLastAll ts ts') ∨ NoParagraph (kindsAll ts)
  | [] => .inr (List.forall_mem_nil _)
  | t :: ts => by
    rcases exists_marksLastAll ts with ⟨ts', h⟩ | hts
    · exact .inl ⟨_, .later h⟩
    · rcases exists_marksLast t with ⟨t', h⟩ | ht
      · exact .inl ⟨_, .last h hts⟩
      · exact .inr (List.forall_mem_append.mpr ⟨ht, hts⟩)

end

/-! ## Marking in the array -/

/-- The same nodes with the last paragraph among them marked. -/
def MarksLastNode (ns ns' : List Node) : Prop :=
  ∃ pre n post, ns = pre ++ n :: post ∧ n.kind.isParagraph = true ∧
    NoParagraph (post.map Node.kind) ∧
    ns' = pre ++ { n with kind := .block (.paragraph true) } :: post

theorem MarksLastNode.append_left {ns ns' : List Node} (h : MarksLastNode ns ns')
    (front : List Node) : MarksLastNode (front ++ ns) (front ++ ns') := by
  obtain ⟨pre, n, post, rfl, hn, hpost, rfl⟩ := h
  exact ⟨front ++ pre, n, post, (List.append_assoc ..).symm, hn, hpost,
    (List.append_assoc ..).symm⟩

theorem MarksLastNode.append_right {ns ns' : List Node} (h : MarksLastNode ns ns')
    {back : List Node} (hback : NoParagraph (back.map Node.kind)) :
    MarksLastNode (ns ++ back) (ns' ++ back) := by
  obtain ⟨pre, n, post, rfl, hn, hpost, rfl⟩ := h
  refine ⟨pre, n, post ++ back, by simp, hn, ?_, by simp⟩
  rw [List.map_append]
  exact List.forall_mem_append.mpr ⟨hpost, hback⟩

theorem sizes_congr : ∀ {ts us : List Tree}, ts.map size = us.map size → sizes ts = sizes us
  | [], [], _ => rfl
  | t :: ts, u :: us, h => by
    obtain ⟨ht, hts⟩ := List.cons.inj h
    rw [sizes, sizes, ht, sizes_congr hts]

/-- The links of a node depend on the sizes of the trees below it only. -/
theorem headNode_congr {cs cs' : List Tree} (h : cs'.map size = cs.map size)
    (parent next inner : Option NodeId) (id : NodeId) (kind : NodeKind) :
    headNode parent next inner id kind cs' = headNode parent next inner id kind cs := by
  have hdrop : sizes cs'.dropLast = sizes cs.dropLast := by
    refine sizes_congr ?_
    rw [List.map_dropLast, List.map_dropLast, h]
  cases cs with
  | nil => rw [List.map_eq_nil_iff.mp h]
  | cons c cs =>
    cases cs' with
    | nil => cases h
    | cons c' cs' => simp only [headNode, firstId, lastId, hdrop]

mutual

theorem MarksLast.size_eq : ∀ {t t' : Tree}, t.MarksLast t' → t'.size = t.size
  | _, _, .paragraph _ _ => rfl
  | _, _, .inside h => by rw [size, size, h.sizes_eq]

theorem MarksLastAll.sizes_eq : ∀ {ts ts' : List Tree}, MarksLastAll ts ts' → sizes ts' = sizes ts
  | _, _, .last h _ => by rw [sizes, sizes, h.size_eq]
  | _, _, .later h => by rw [sizes, sizes, h.sizes_eq]

end

theorem MarksLastAll.map_size_eq {ts ts' : List Tree} (h : MarksLastAll ts ts') :
    ts'.map size = ts.map size := by
  induction ts generalizing ts' with
  | nil => cases h
  | cons t ts ih =>
    cases h with
    | last h _ => rw [List.map_cons, List.map_cons, h.size_eq]
    | later h => rw [List.map_cons, List.map_cons, ih h]

/-- The number behind some trees, or that of the first of them, does not change. -/
theorem MarksLastAll.firstId_eq {ts ts' : List Tree} (h : MarksLastAll ts ts')
    (next : Option NodeId) (id : NodeId) : firstId next id ts' = firstId next id ts := by
  cases h <;> rfl

mutual

theorem MarksLast.nodes : ∀ {t t' : Tree}, t.MarksLast t' → ∀ (parent next : Option NodeId)
    (id : NodeId), MarksLastNode (t.nodes parent next id) (t'.nodes parent next id)
  | .node k cs, _, .paragraph hk hcs, parent, next, id => by
    refine ⟨[], headNode parent next none id k cs, nodesAll (some id) none (id + 1) cs, rfl, hk,
      ?_, rfl⟩
    rwa [map_kind_nodesAll]
  | .node k cs, .node _ cs', .inside h, parent, next, id => by
    rw [Tree.nodes, Tree.nodes, headNode_congr h.map_size_eq]
    exact (h.nodesAll _ _ _).append_left [headNode parent next none id k cs]

theorem MarksLastAll.nodesAll : ∀ {ts ts' : List Tree}, MarksLastAll ts ts' →
    ∀ (parent next : Option NodeId) (id : NodeId),
      MarksLastNode (Tree.nodesAll parent next id ts) (Tree.nodesAll parent next id ts')
  | _, _, .last h hts, parent, next, id => by
    rw [Tree.nodesAll, Tree.nodesAll, h.size_eq]
    refine (h.nodes _ _ _).append_right ?_
    rwa [map_kind_nodesAll]
  | _, _, .later h, parent, next, id => by
    rw [Tree.nodesAll, Tree.nodesAll, h.firstId_eq]
    exact (h.nodesAll _ _ _).append_left _

end

/-- The kinds of a tree with its last paragraph marked. -/
theorem MarksLast.kinds {t t' : Tree} (h : t.MarksLast t') :
    ∃ pre k post, t.kinds = pre ++ k :: post ∧ k.isParagraph = true ∧ NoParagraph post ∧
      t'.kinds = pre ++ .block (.paragraph true) :: post := by
  obtain ⟨pre, n, post, hns, hn, hpost, hns'⟩ := h.nodes none none 0
  refine ⟨pre.map Node.kind, n.kind, post.map Node.kind, ?_, hn, hpost, ?_⟩
  · rw [← t.map_kind_nodes none none 0, hns, List.map_append, List.map_cons]
  · rw [← t'.map_kind_nodes none none 0, hns', List.map_append, List.map_cons]

/-- Marking touches no definition. -/
theorem MarksLast.filter_isDefinition {t t' : Tree} (h : t.MarksLast t') :
    t'.kinds.filter NodeKind.isDefinition = t.kinds.filter NodeKind.isDefinition := by
  obtain ⟨pre, k, post, ht, hk, -, ht'⟩ := h.kinds
  have hdef : ∀ k : NodeKind, k.isParagraph = true → ¬ k.isDefinition = true := by
    intro k hk
    rw [← NodeKind.isDefinition_plain, NodeKind.plain_of_isParagraph hk]
    simp [NodeKind.isDefinition]
  rw [ht, ht', List.filter_append, List.filter_append, List.filter_cons_of_neg (hdef k hk),
    List.filter_cons_of_neg (hdef _ rfl)]

end Tree

/-! ## Marking in a document -/

namespace Document

theorem kind_of_toList {doc : Document} {pre post : List Node} {n : Node}
    (h : doc.nodes.toList = pre ++ n :: post) : doc.kind pre.length = n.kind := by
  rw [kind, get?_of_toList h rfl]

/-- Outside of a document the kind is that of the root, and so no paragraph is there either. -/
theorem isParagraph_eq_false {doc : Document} {id : NodeId}
    (h : ∀ n, doc.get? id = some n → n.kind.isParagraph = false) :
    (doc.kind id).isParagraph = false := by
  rw [kind]
  cases hget : doc.get? id with
  | none => rfl
  | some n => exact h n hget

/-- The paragraph that is marked is the last one of the array. -/
theorem markTrailingParagraph_of_toList {doc : Document} {ns' : List Node}
    (h : Tree.MarksLastNode doc.nodes.toList ns') : doc.markTrailingParagraph = ⟨ns'.toArray⟩ := by
  obtain ⟨pre, n, post, hns, hn, hpost, rfl⟩ := h
  have hsize : doc.size = pre.length + (post.length + 1) := by
    rw [size, ← Array.length_toList, hns, List.length_append, List.length_cons]
  -- the numbers behind the paragraph come first in the search, and none is that of a paragraph
  have hids : doc.iter.reverse = (List.range' (pre.length + 1) post.length).reverse ++
      pre.length :: (List.range pre.length).reverse := by
    rw [iter, hsize, List.range_eq_range', List.range_eq_range', ← List.range'_append_1,
      Nat.zero_add, List.range'_succ]
    simp
  have hbehind : ∀ id ∈ (List.range' (pre.length + 1) post.length).reverse,
      (!(doc.kind id).isParagraph) = true := by
    intro id hid
    rw [List.mem_reverse, List.mem_range'_1] at hid
    rw [isParagraph_eq_false]
    · rfl
    · intro m hm
      obtain ⟨i, rfl⟩ := Nat.exists_eq_add_of_le hid.1
      rw [get?, ← Array.getElem?_toList, hns, List.getElem?_append_right (by omega), Nat.add_assoc,
        Nat.add_sub_cancel_left, Nat.add_comm, List.getElem?_cons_succ] at hm
      exact hpost m.kind (List.mem_map_of_mem (List.mem_of_getElem? hm))
  have hfind : doc.iter.reverse.find? (fun id => (doc.kind id).isParagraph) = some pre.length := by
    rw [List.find?_eq_some_iff_append]
    exact ⟨by rw [kind_of_toList hns, hn], _, _, hids, hbehind⟩
  rw [markTrailingParagraph, hfind]
  refine congrArg Document.mk (Array.toList_inj.mp ?_)
  rw [Array.toList_modify, hns, Zipper.modify_append_cons]

/-- Without a paragraph nothing is marked. -/
theorem markTrailingParagraph_of_noParagraph {doc : Document} (h : NoParagraph doc.kinds) :
    doc.markTrailingParagraph = doc := by
  have hfind : doc.iter.reverse.find? (fun id => (doc.kind id).isParagraph) = none := by
    rw [List.find?_eq_none]
    intro id _
    rw [isParagraph_eq_false]
    · exact Bool.false_ne_true
    · intro n hn
      exact h n.kind (List.mem_map_of_mem (Array.mem_toList_iff.mpr (Array.mem_of_getElem? hn)))
  rw [markTrailingParagraph, hfind]

end Document

/-- **Marking the trailing paragraph of a document is marking the last one of its tree.** -/
theorem Tree.MarksLast.document {t t' : Tree} (h : t.MarksLast t') :
    t.document.markTrailingParagraph = t'.document :=
  Document.markTrailingParagraph_of_toList (h.nodes none none 0)

/-! ## The mark and the definitions -/

namespace Tree

mutual

/-- The mark keeps what a tree enriches. -/
theorem MarksLast.enriches : ∀ {t t' u : Tree}, t.MarksLast t' → t.Enriches u → t'.Enriches u
  | .node k cs, _, .node k' cs', .paragraph hk _, .node hkind hcs => by
    rw [NodeKind.plain_of_isParagraph hk] at hkind
    have haccepts : k.acceptsDefinitions = (NodeKind.block (.paragraph true)).acceptsDefinitions :=
      by rw [← k.acceptsDefinitions_plain, NodeKind.plain_of_isParagraph hk]; rfl
    exact .node hkind (haccepts ▸ hcs)
  | .node k cs, _, .node k' cs', .inside h, .node hkind hcs => .node hkind (h.enrichesAll hcs)

theorem MarksLastAll.enrichesAll : ∀ {accepts : Bool} {ts ts' us : List Tree},
    MarksLastAll ts ts' → EnrichesAll accepts ts us → EnrichesAll accepts ts' us
  | _, _, _, _, .last h _, .cons ht hts => .cons (h.enriches ht) hts
  | _, _, _, _, .later h, .cons ht hts => .cons ht (h.enrichesAll hts)
  | _, _, _, _, .later h, .definition label destination title hts =>
    .definition label destination title (h.enrichesAll hts)
  -- there is no paragraph in a definition
  | _, _, _, _, .last (.inside h) _, .definition .. => by cases h

end

mutual

theorem kinds_erase_sublist : ∀ t : Tree, t.erase.kinds.Sublist t.kinds
  | node k cs => .cons_cons k (kindsAll_eraseAll_sublist cs)

theorem kindsAll_eraseAll_sublist : ∀ ts : List Tree, (kindsAll (eraseAll ts)).Sublist (kindsAll ts)
  | [] => .slnil
  | t :: ts => by
    rw [eraseAll]
    split
    · exact (kindsAll_eraseAll_sublist ts).trans (List.sublist_append_right ..)
    · exact (kinds_erase_sublist t).append (kindsAll_eraseAll_sublist ts)

end

theorem NoParagraph.eraseAll {ts : List Tree} (h : NoParagraph (kindsAll ts)) :
    NoParagraph (kindsAll (eraseAll ts)) :=
  fun k hk => h k ((kindsAll_eraseAll_sublist ts).subset hk)

mutual

/-- **The mark stays when the definitions are left out.** -/
theorem MarksLast.erase : ∀ {t t' u : Tree}, t.MarksLast t' → t.Enriches u → u.Undefined →
    t.erase.MarksLast t'.erase
  | .node _ _, _, .node _ _, .paragraph hk hcs, _, _ => .paragraph hk (NoParagraph.eraseAll hcs)
  | .node _ _, _, .node _ _, .inside h, .node _ hcs, hdef =>
    .inside (h.eraseAll hcs (List.forall_mem_cons.mp hdef).2)

theorem MarksLastAll.eraseAll : ∀ {accepts : Bool} {ts ts' us : List Tree},
    MarksLastAll ts ts' → EnrichesAll accepts ts us → (∀ k ∈ kindsAll us, k.isDefinition = false) →
    MarksLastAll (Tree.eraseAll ts) (Tree.eraseAll ts')
  | _, _, _, _, .last h hts, .cons hu hus, hdef => by
    obtain ⟨hdef, -⟩ := List.forall_mem_append.mp hdef
    rw [Tree.eraseAll, Tree.eraseAll, hu.isDefinition_eq_false hdef,
      (h.enriches hu).isDefinition_eq_false hdef]
    exact .last (h.erase hu hdef) (NoParagraph.eraseAll hts)
  | _, _, _, _, .later h, .cons hu hus, hdef => by
    obtain ⟨hdef, hdefs⟩ := List.forall_mem_append.mp hdef
    rw [Tree.eraseAll, Tree.eraseAll, hu.isDefinition_eq_false hdef]
    exact .later (h.eraseAll hus hdefs)
  | _, _, _, _, .later h, .definition label destination title hus, hdef => by
    rw [Tree.eraseAll, Tree.eraseAll]
    exact h.eraseAll hus hdef
  | _, _, _, _, .last (.inside h) _, .definition .., _ => by cases h

end

end Tree

end MarkdownTree
