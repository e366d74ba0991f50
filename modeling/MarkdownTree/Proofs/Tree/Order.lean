import MarkdownTree.Proofs.Tree.Zipper

/-!
# Creation order is document order

Every document that a builder makes is the arena of a tree, and there a node with what is below it
takes up one stretch of numbers. All links can be read off these stretches: the first number is that
of the node itself, and the stretches of its children follow one after the other.

* `Document.Traverses` — the walk along first children and next siblings.
* `Document.Placed` — a tree takes up the numbers from a given one on.
* `Placed.exists_placed` — every number of a stretch is that of a node with a stretch of its own.
* `Document.Ordered`, `Tree.ordered_document` — what the links of every such document satisfy.
* `Zipper.linked_path` — the open containers are the ancestors of the current one.
* `Builder.run_ordered` — parents, children, ancestors and document order after any operations.
-/

namespace MarkdownTree

/-! ## Walks along the links -/

namespace Document

/-- Whether the walk from a node on visits the given nodes: the node, then what is below its first
child, then its next siblings. -/
inductive Traverses (doc : Document) : Option NodeId → List NodeId → Prop
  | nil : Traverses doc none []
  | cons {id : NodeId} {below after : List NodeId} :
      Traverses doc (doc.firstChild? id) below → Traverses doc (doc.nextSibling? id) after →
        Traverses doc (some id) (id :: (below ++ after))

/-- A link leads through one sequence of nodes only. -/
theorem Linked.unique {link : NodeId → Option NodeId} {first : Option NodeId}
    {ids ids' : List NodeId} (h : Linked link first ids) (h' : Linked link first ids') :
    ids = ids' := by
  induction h generalizing ids' with
  | nil =>
    cases h'
    rfl
  | cons _ ih =>
    cases h' with
    | cons h' => rw [ih h']

/-- A walk visits one sequence of nodes only. -/
theorem Traverses.unique {doc : Document} {first : Option NodeId} {ids ids' : List NodeId}
    (h : doc.Traverses first ids) (h' : doc.Traverses first ids') : ids = ids' := by
  induction h generalizing ids' with
  | nil =>
    cases h'
    rfl
  | cons _ _ ihBelow ihAfter =>
    cases h' with
    | cons hBelow hAfter => rw [ihBelow hBelow, ihAfter hAfter]

/-- A chain of siblings that is not longer than the bound is seen to its end. -/
theorem Linked.chain_eq {doc : Document} {first : Option NodeId} {ids : List NodeId}
    (h : Linked doc.nextSibling? first ids) : ∀ {bound : Nat}, ids.length ≤ bound →
      doc.chain bound first = ids := by
  induction h with
  | nil =>
    intro bound _
    cases bound <;> rfl
  | cons _ ih =>
    intro bound hb
    cases bound with
    | zero => cases hb
    | succ bound => rw [chain, ih (Nat.le_of_succ_le_succ hb)]

end Document

/-! ## The numbers of sibling trees -/

namespace Tree

/-- The numbers of sibling trees that are numbered from `id` on. -/
def ids (id : NodeId) : List Tree → List NodeId
  | [] => []
  | t :: ts => id :: ids (id + t.size) ts

@[simp] theorem length_ids : ∀ (ts : List Tree) (id : NodeId), (ids id ts).length = ts.length
  | [], _ => rfl
  | t :: ts, id => by rw [ids, List.length_cons, length_ids ts, List.length_cons]

theorem le_of_mem_ids {c : Nat} : ∀ {ts : List Tree} {id : Nat}, c ∈ ids id ts → id ≤ c
  | [], _, h => by simp [ids] at h
  | t :: ts, id, h => by
    rcases List.mem_cons.mp h with rfl | h
    · exact Nat.le_refl c
    · have := le_of_mem_ids h
      omega

theorem pairwise_ids : ∀ (ts : List Tree) (id : Nat), (ids id ts).Pairwise (· < ·)
  | [], _ => .nil
  | t :: ts, id => by
    refine .cons ?_ (pairwise_ids ts (id + t.size))
    intro c hc
    exact Nat.lt_of_lt_of_le (Nat.lt_add_of_pos_right t.size_pos) (le_of_mem_ids hc)

end Tree

/-! ## Trees in place -/

namespace Document

mutual

/-- Whether the nodes of a tree take up the numbers of a document from `id` on. -/
def Placed (doc : Document) (parent next : Option NodeId) (id : NodeId) : Tree → Prop
  | .node k cs =>
    doc.get? id = some (Tree.headNode parent next none id k cs) ∧
      doc.PlacedAll (some id) (id + 1) cs

/-- Whether the nodes of sibling trees do. -/
def PlacedAll (doc : Document) (parent : Option NodeId) (id : NodeId) : List Tree → Prop
  | [] => True
  | t :: ts =>
    doc.Placed parent (Tree.firstId none (id + t.size) ts) id t ∧
      doc.PlacedAll parent (id + t.size) ts

end

mutual

theorem placed_of_toList {doc : Document} :
    ∀ (t : Tree) {parent next : Option NodeId} {id : NodeId} {pre post : List Node},
      doc.nodes.toList = pre ++ (t.nodes parent next id ++ post) → pre.length = id →
      doc.Placed parent next id t
  | .node k cs, parent, next, id, pre, post, h, hid => by
    rw [Tree.nodes, List.cons_append] at h
    have hrest : doc.nodes.toList =
        (pre ++ [Tree.headNode parent next none id k cs]) ++
          (Tree.nodesAll (some id) none (id + 1) cs ++ post) := by
      rw [h]
      simp
    exact ⟨get?_of_toList h hid, placedAll_of_toList cs hrest (by simp [hid])⟩

theorem placedAll_of_toList {doc : Document} :
    ∀ (ts : List Tree) {parent : Option NodeId} {id : NodeId} {pre post : List Node},
      doc.nodes.toList = pre ++ (Tree.nodesAll parent none id ts ++ post) → pre.length = id →
      doc.PlacedAll parent id ts
  | [], _, _, _, _, _, _ => trivial
  | t :: ts, parent, id, pre, post, h, hid => by
    rw [Tree.nodesAll, List.append_assoc] at h
    have hrest : doc.nodes.toList =
        (pre ++ t.nodes parent (Tree.firstId none (id + t.size) ts) id) ++
          (Tree.nodesAll parent none (id + t.size) ts ++ post) := by
      rw [h, List.append_assoc]
    exact ⟨placed_of_toList t h hid, placedAll_of_toList ts hrest (by simp [hid])⟩

end

/-! ## Links of a tree in place -/

namespace Placed

variable {doc : Document} {parent next : Option NodeId} {id : NodeId} {t : Tree}

theorem parent?_eq (h : doc.Placed parent next id t) : doc.parent? id = parent := by
  cases t
  simp [parent?, h.1, Tree.headNode]

theorem nextSibling?_eq (h : doc.Placed parent next id t) : doc.nextSibling? id = next := by
  cases t
  simp [nextSibling?, h.1, Tree.headNode]

theorem firstChild?_eq (h : doc.Placed parent next id t) :
    doc.firstChild? id = Tree.firstId none (id + 1) t.children := by
  cases t
  simp [firstChild?, h.1, Tree.headNode, Tree.children]

theorem placedAll_children (h : doc.Placed parent next id t) :
    doc.PlacedAll (some id) (id + 1) t.children := by
  cases t
  exact h.2

theorem lt_size (h : doc.Placed parent next id t) : id < doc.size := by
  cases t
  obtain ⟨hlt, -⟩ := Array.getElem?_eq_some_iff.mp h.1
  exact hlt

end Placed

mutual

theorem Placed.le_size {doc : Document} : ∀ {t : Tree} {parent next : Option NodeId} {id : Nat},
    doc.Placed parent next id t → id + t.size ≤ doc.size
  | .node k cs, parent, next, id, h => by
    have hcs := PlacedAll.le_size h.2 h.lt_size
    rw [Tree.size]
    omega

theorem PlacedAll.le_size {doc : Document} : ∀ {ts : List Tree} {parent : Option NodeId}
    {id : Nat}, doc.PlacedAll parent id ts → id ≤ doc.size → id + Tree.sizes ts ≤ doc.size
  | [], _, _, _, hid => hid
  | t :: ts, parent, id, h, _ => by
    have hts := PlacedAll.le_size h.2 (Placed.le_size h.1)
    rw [Tree.sizes]
    omega

end

theorem PlacedAll.linked {doc : Document} : ∀ {ts : List Tree} {parent : Option NodeId}
    {id : NodeId}, doc.PlacedAll parent id ts →
      Linked doc.nextSibling? (Tree.firstId none id ts) (Tree.ids id ts)
  | [], _, _, _ => .nil
  | t :: ts, parent, id, h => by
    refine .cons ?_
    rw [h.1.nextSibling?_eq]
    exact h.2.linked

theorem PlacedAll.parent?_of_mem_ids {doc : Document} {c : NodeId} : ∀ {ts : List Tree}
    {parent : Option NodeId} {id : NodeId}, doc.PlacedAll parent id ts → c ∈ Tree.ids id ts →
      doc.parent? c = parent
  | [], _, _, _, hc => by simp [Tree.ids] at hc
  | t :: ts, parent, id, h, hc => by
    rcases List.mem_cons.mp hc with rfl | hc
    · exact h.1.parent?_eq
    · exact h.2.parent?_of_mem_ids hc

namespace Placed

variable {doc : Document} {parent next : Option NodeId} {id : NodeId} {t : Tree}

theorem children_eq (h : doc.Placed parent next id t) :
    doc.children id = Tree.ids (id + 1) t.children := by
  have hlength : (Tree.ids (id + 1) t.children).length ≤ doc.size := by
    have hsize := h.placedAll_children.le_size h.lt_size
    rw [Tree.length_ids]
    exact Nat.le_trans (Tree.length_le_sizes t.children)
      (Nat.le_trans (Nat.le_add_left _ _) hsize)
  rw [children, h.firstChild?_eq]
  exact h.placedAll_children.linked.chain_eq hlength

theorem linked_children (h : doc.Placed parent next id t) :
    Linked doc.nextSibling? (doc.firstChild? id) (doc.children id) := by
  rw [h.firstChild?_eq, h.children_eq]
  exact h.placedAll_children.linked

theorem parent?_of_mem_children (h : doc.Placed parent next id t) {c : NodeId}
    (hc : c ∈ doc.children id) : doc.parent? c = some id := by
  rw [h.children_eq] at hc
  exact h.placedAll_children.parent?_of_mem_ids hc

end Placed

mutual

/-- Every number of a stretch is that of a node with a stretch of its own, and all but the first
are among the children of a node. -/
theorem Placed.exists_placed {doc : Document} {c : Nat} : ∀ {t : Tree}
    {parent next : Option NodeId} {id : Nat}, doc.Placed parent next id t → id ≤ c →
      c < id + t.size →
      (∃ parent' next' u, doc.Placed parent' next' c u) ∧ (c = id ∨ ∃ p, c ∈ doc.children p)
  | .node k cs, parent, next, id, h, hle, hlt => by
    by_cases hc : c = id
    · exact ⟨⟨parent, next, .node k cs, hc ▸ h⟩, .inl hc⟩
    · rw [Tree.size] at hlt
      obtain ⟨hplaced, hchild⟩ := PlacedAll.exists_placed h.2 (c := c) (by omega) (by omega)
      refine ⟨hplaced, .inr ?_⟩
      rcases hchild with hmem | hchild
      · refine ⟨id, ?_⟩
        rw [h.children_eq]
        exact hmem
      · exact hchild

/-- Every number of the stretches of siblings is that of a node with a stretch of its own, and all
but the siblings themselves are among the children of a node. -/
theorem PlacedAll.exists_placed {doc : Document} {c : Nat} : ∀ {ts : List Tree}
    {parent : Option NodeId} {id : Nat}, doc.PlacedAll parent id ts → id ≤ c →
      c < id + Tree.sizes ts →
      (∃ parent' next' u, doc.Placed parent' next' c u) ∧
        (c ∈ Tree.ids id ts ∨ ∃ p, c ∈ doc.children p)
  | [], _, id, _, hle, hlt => by
    rw [Tree.sizes] at hlt
    omega
  | t :: ts, parent, id, h, hle, hlt => by
    rw [Tree.sizes] at hlt
    by_cases hc : c < id + t.size
    · obtain ⟨hplaced, hchild⟩ := Placed.exists_placed h.1 hle hc
      refine ⟨hplaced, hchild.imp_left ?_⟩
      rintro rfl
      exact List.mem_cons_self
    · obtain ⟨hplaced, hchild⟩ := PlacedAll.exists_placed h.2 (c := c) (by omega) (by omega)
      exact ⟨hplaced, hchild.imp_left (List.mem_cons_of_mem id)⟩

end

mutual

/-- The walk from a placed tree on visits its stretch, and then what the walk from its next sibling
on visits. -/
theorem Placed.traverses {doc : Document} : ∀ {t : Tree} {parent next : Option NodeId}
    {id : NodeId} {after : List NodeId}, doc.Placed parent next id t → doc.Traverses next after →
      doc.Traverses (some id) (List.range' id t.size ++ after)
  | .node k cs, parent, next, id, after, h, hafter => by
    have hbelow := PlacedAll.traverses h.2
    rw [Tree.size, List.range'_succ, List.cons_append]
    refine .cons ?_ ?_
    · rw [h.firstChild?_eq]
      exact hbelow
    · rw [h.nextSibling?_eq]
      exact hafter

theorem PlacedAll.traverses {doc : Document} : ∀ {ts : List Tree} {parent : Option NodeId}
    {id : NodeId}, doc.PlacedAll parent id ts →
      doc.Traverses (Tree.firstId none id ts) (List.range' id (Tree.sizes ts))
  | [], _, _, _ => .nil
  | t :: ts, parent, id, h => by
    rw [Tree.sizes, ← List.range'_append_1]
    exact Placed.traverses h.1 (PlacedAll.traverses h.2)

end

end Document

/-! ## The document of a tree -/

namespace Document

/-- What every document that a builder makes satisfies. -/
structure Ordered (doc : Document) : Prop where
  /-- The root is the only node without a parent. -/
  parent?_eq_none_iff : ∀ id, (id < doc.size ∧ doc.parent? id = none) ↔ id = 0
  /-- Every other node comes after its parent. -/
  parent_lt : ∀ id parent, doc.parent? id = some parent → parent < id
  /-- The chain of siblings from the first child on ends, and it is the list of children. -/
  linked_children : ∀ id, Linked doc.nextSibling? (doc.firstChild? id) (doc.children id)
  /-- Children stand in creation order, each of them once. -/
  pairwise_children : ∀ id, (doc.children id).Pairwise (· < ·)
  /-- The children of a node are the nodes whose parent it is. -/
  mem_children_iff : ∀ id child, child ∈ doc.children id ↔ doc.parent? child = some id
  /-- The walk along first children and next siblings visits the nodes in creation order. -/
  traverses : doc.Traverses (some 0) doc.iter

variable {doc : Document} {id : NodeId}

/-- Outside of a document there are no links. -/
theorem get?_eq_none (h : ¬ id < doc.size) : doc.get? id = none :=
  Array.getElem?_eq_none (Nat.le_of_not_lt h)

theorem lt_size_of_parent? {parent : NodeId} (h : doc.parent? id = some parent) :
    id < doc.size := by
  by_contra hid
  rw [parent?, get?_eq_none hid] at h
  cases h

theorem firstChild?_eq_none (h : ¬ id < doc.size) : doc.firstChild? id = none := by
  rw [firstChild?, get?_eq_none h]
  rfl

theorem children_eq_nil (h : ¬ id < doc.size) : doc.children id = [] := by
  rw [children, firstChild?_eq_none h]
  exact Linked.nil.chain_eq (Nat.zero_le _)

theorem Ordered.lt_of_mem_children (hdoc : doc.Ordered) {c : NodeId} (h : c ∈ doc.children id) :
    id < c :=
  hdoc.parent_lt c id ((hdoc.mem_children_iff id c).mp h)

/-- A node is a child of one node only. -/
theorem Ordered.eq_of_mem_children (hdoc : doc.Ordered) {id' c : NodeId}
    (h : c ∈ doc.children id) (h' : c ∈ doc.children id') : id = id' := by
  rw [hdoc.mem_children_iff] at h h'
  rw [h] at h'
  exact Option.some.inj h'

end Document

namespace Tree

open Document

theorem placed_document (t : Tree) : t.document.Placed none none 0 t := by
  have h : t.document.nodes.toList = [] ++ (t.nodes none none 0 ++ []) := by simp [document]
  exact placed_of_toList t h rfl

variable {t : Tree} {id c : NodeId}

theorem exists_placed_document (h : id < t.document.size) :
    (∃ parent next u, t.document.Placed parent next id u) ∧
      (id = 0 ∨ ∃ p, id ∈ t.document.children p) := by
  refine t.placed_document.exists_placed (Nat.zero_le id) ?_
  rwa [Nat.zero_add, ← size_document]

theorem exists_placed_of_mem_children (h : c ∈ t.document.children id) :
    ∃ parent next u, t.document.Placed parent next id u := by
  by_cases hid : id < t.document.size
  · exact (exists_placed_document hid).1
  · rw [children_eq_nil hid] at h
    cases h

theorem parent?_of_mem_children (h : c ∈ t.document.children id) :
    t.document.parent? c = some id := by
  obtain ⟨_, _, _, hplaced⟩ := exists_placed_of_mem_children h
  exact hplaced.parent?_of_mem_children h

theorem mem_children_of_parent? (h : t.document.parent? c = some id) :
    c ∈ t.document.children id := by
  rcases (exists_placed_document (lt_size_of_parent? h)).2 with rfl | ⟨p, hp⟩
  · rw [t.placed_document.parent?_eq] at h
    cases h
  · rw [parent?_of_mem_children hp] at h
    cases h
    exact hp

theorem lt_of_mem_children (h : c ∈ t.document.children id) : id < c := by
  obtain ⟨_, _, _, hplaced⟩ := exists_placed_of_mem_children h
  rw [hplaced.children_eq] at h
  exact le_of_mem_ids h

/-- **The document of a tree is ordered.** -/
theorem ordered_document (t : Tree) : t.document.Ordered where
  parent?_eq_none_iff id := by
    constructor
    · rintro ⟨hid, hnone⟩
      rcases (exists_placed_document hid).2 with hzero | ⟨p, hp⟩
      · exact hzero
      · rw [parent?_of_mem_children hp] at hnone
        cases hnone
    · rintro rfl
      exact ⟨t.placed_document.lt_size, t.placed_document.parent?_eq⟩
  parent_lt id parent h := lt_of_mem_children (mem_children_of_parent? h)
  linked_children id := by
    by_cases hid : id < t.document.size
    · obtain ⟨⟨_, _, _, hplaced⟩, -⟩ := exists_placed_document hid
      exact hplaced.linked_children
    · rw [firstChild?_eq_none hid, children_eq_nil hid]
      exact .nil
  pairwise_children id := by
    by_cases hid : id < t.document.size
    · obtain ⟨⟨_, _, u, hplaced⟩, -⟩ := exists_placed_document hid
      rw [hplaced.children_eq]
      exact pairwise_ids u.children (id + 1)
    · rw [children_eq_nil hid]
      exact .nil
  mem_children_iff id child := ⟨parent?_of_mem_children, mem_children_of_parent?⟩
  traverses := by
    have h := t.placed_document.traverses .nil
    rwa [List.append_nil, ← List.range_eq_range', ← size_document] at h

end Tree

/-! ## The open containers of a builder -/

namespace Zipper

open Document

theorem parent?_current (z : Zipper) :
    z.builder.document.parent? (offset z.outer) = parent z.outer := by
  rw [parent?, get?_current]
  rfl

/-- The open containers are the current one and its ancestors, up to the root. -/
theorem linked_path (l : Layer) (outer : List Layer) :
    Linked (builder ⟨l, outer⟩).document.parent? (some (offset outer)) (path outer ++ [0]) := by
  induction outer generalizing l with
  | nil =>
    refine .cons ?_
    rw [parent?_current ⟨l, []⟩]
    exact .nil
  | cons o outer ih =>
    refine .cons ?_
    rw [parent?_current ⟨l, o :: outer⟩, document_close]
    exact ih (o.append [l.close])

end Zipper

/-- After any operations the document is ordered. -/
theorem Builder.ordered_run (operations : List Builder.Operation) :
    (run operations).document.Ordered := by
  obtain ⟨z, hz⟩ := exists_zipper_run operations
  rw [hz, Zipper.document_builder]
  exact z.tree.ordered_document

/-- **The arena of a builder.** After any operations the document is ordered, and the open
containers are the current one and its ancestors up to the root. -/
theorem Builder.run_ordered (operations : List Builder.Operation) :
    (run operations).document.Ordered ∧
      Document.Linked (run operations).document.parent? (some (run operations).current)
        ((run operations).path ++ [0]) := by
  refine ⟨ordered_run operations, ?_⟩
  obtain ⟨z, hz⟩ := exists_zipper_run operations
  rw [hz, Zipper.current_builder]
  exact Zipper.linked_path z.layer z.outer

end MarkdownTree
