import Mathlib.Data.List.Forall2
import MarkdownTree.Document.Basic

/-!
# Trees and their arenas

A document keeps its nodes in an array and links them by index. The same nodes form a tree in the
plain sense: a kind with the trees below it. This module relates the two.

* `Tree.document` — a tree as a document. Nodes are numbered in document order, so the nodes below
  a node follow it directly, and every link can be computed from the sizes of the subtrees.
* `Document.tree` — the tree of a document, read along its chains of siblings.
* `Document.Linked` — following a link to its end.
* `Document.Shows` — what the renderer may rely on when it stands on a node: its kind and the
  chain of its children, all the way down.
* `Document.Holds` — the same with the promise that walks bounded by the number of nodes see all of
  the tree.
* `tree_document` — reading the document of a tree gives the tree back.
-/

namespace MarkdownTree

/-- A node with everything below it. -/
inductive Tree
  | node (kind : NodeKind) (children : List Tree)
deriving Repr, Inhabited

namespace Tree

/-- The kind of the topmost node. -/
def kind : Tree → NodeKind
  | node k _ => k

/-- The trees directly below the topmost node. -/
def children : Tree → List Tree
  | node _ cs => cs

mutual

/-- Number of nodes. -/
def size : Tree → Nat
  | node _ cs => sizes cs + 1

/-- Number of nodes of some trees. -/
def sizes : List Tree → Nat
  | [] => 0
  | t :: ts => t.size + sizes ts

end

mutual

/-- Number of levels below the topmost node. -/
def height : Tree → Nat
  | node _ cs => heights cs

/-- Number of levels of some trees. -/
def heights : List Tree → Nat
  | [] => 0
  | t :: ts => max (t.height + 1) (heights ts)

end

@[simp] theorem sizes_append : ∀ ts us : List Tree, sizes (ts ++ us) = sizes ts + sizes us
  | [], us => by simp [sizes]
  | t :: ts, us => by
    rw [List.cons_append, sizes, sizes, sizes_append ts us, Nat.add_assoc]

theorem size_pos (t : Tree) : 0 < t.size := by
  cases t
  simp [size]

theorem length_le_sizes : ∀ ts : List Tree, ts.length ≤ sizes ts
  | [] => by simp [sizes]
  | t :: ts => by
    have := t.size_pos
    have := length_le_sizes ts
    simp only [List.length_cons, sizes]
    omega

theorem size_le_sizes {t : Tree} : ∀ {ts : List Tree}, t ∈ ts → t.size ≤ sizes ts
  | u :: ts, h => by
    rw [sizes]
    rcases List.mem_cons.mp h with rfl | hm
    · omega
    · have := size_le_sizes hm
      omega

mutual

theorem height_lt_size : ∀ t : Tree, t.height < t.size
  | node _ cs => by
    have := heights_le_sizes cs
    simp only [height, size]
    omega

theorem heights_le_sizes : ∀ ts : List Tree, heights ts ≤ sizes ts
  | [] => by simp [heights]
  | t :: ts => by
    have := height_lt_size t
    have := heights_le_sizes ts
    simp only [heights, sizes]
    omega

end

theorem height_lt_heights {t : Tree} : ∀ {ts : List Tree}, t ∈ ts → t.height < heights ts
  | u :: ts, h => by
    rw [heights]
    rcases List.mem_cons.mp h with rfl | hm
    · omega
    · have := height_lt_heights hm
      omega

/-! ## The arena of a tree -/

/-- The first of some trees that are numbered from `id` on. `next` stands behind them. -/
def firstId (next : Option NodeId) (id : NodeId) : List Tree → Option NodeId
  | [] => next
  | _ :: _ => some id

/-- The last of some trees that are numbered from `id` on. -/
def lastId (id : NodeId) : List Tree → Option NodeId
  | [] => none
  | t :: ts => some (id + sizes (t :: ts).dropLast)

/-- The node over some trees. Its last child may be yet another one, `inner`, behind them. -/
def headNode (parent next inner : Option NodeId) (id : NodeId) (kind : NodeKind)
    (cs : List Tree) : Node where
  kind
  parent
  firstChild := firstId inner (id + 1) cs
  lastChild := inner <|> lastId (id + 1) cs
  nextSibling := next

mutual

/-- The nodes of a tree in document order, numbered from `id` on. -/
def nodes (parent next : Option NodeId) (id : NodeId) : Tree → List Node
  | node k cs => headNode parent next none id k cs :: nodesAll (some id) none (id + 1) cs

/-- The nodes of sibling trees. `next` is the sibling behind them. -/
def nodesAll (parent next : Option NodeId) (id : NodeId) : List Tree → List Node
  | [] => []
  | t :: ts =>
    t.nodes parent (firstId next (id + t.size) ts) id ++
      nodesAll parent next (id + t.size) ts

end

/-- A tree as a document. -/
def document (t : Tree) : Document :=
  ⟨(t.nodes none none 0).toArray⟩

@[simp] theorem firstId_concat (next : Option NodeId) (id : NodeId) (ts : List Tree) (t : Tree) :
    firstId next id (ts ++ [t]) = firstId (some (id + sizes ts)) id ts := by
  cases ts <;> simp [firstId, sizes]

@[simp] theorem lastId_concat (id : NodeId) (ts : List Tree) (t : Tree) :
    lastId id (ts ++ [t]) = some (id + sizes ts) := by
  have h : lastId id (ts ++ [t]) = some (id + sizes (ts ++ [t]).dropLast) := by
    cases ts <;> rfl
  rw [h, List.dropLast_concat]

mutual

@[simp] theorem length_nodes (parent next : Option NodeId) (id : NodeId) :
    ∀ t : Tree, (t.nodes parent next id).length = t.size
  | node k cs => by
    simp [nodes, size, length_nodesAll (some id) none (id + 1) cs]

@[simp] theorem length_nodesAll (parent next : Option NodeId) (id : NodeId) :
    ∀ ts : List Tree, (nodesAll parent next id ts).length = sizes ts
  | [] => rfl
  | t :: ts => by
    rw [nodesAll, List.length_append, length_nodes parent _ id t,
      length_nodesAll parent next (id + t.size) ts, sizes]

end

/-- The nodes of trees and of one more tree behind them. -/
theorem nodesAll_concat (parent next : Option NodeId) :
    ∀ (id : NodeId) (ts : List Tree) (t : Tree),
      nodesAll parent next id (ts ++ [t]) =
        nodesAll parent (some (id + sizes ts)) id ts ++ t.nodes parent next (id + sizes ts)
  | id, [], t => by simp [nodesAll, firstId, sizes]
  | id, u :: us, t => by
    have hoff : id + u.size + sizes us = id + sizes (u :: us) := by rw [sizes, Nat.add_assoc]
    rw [List.cons_append, nodesAll, nodesAll, nodesAll_concat parent next (id + u.size) us t,
      firstId_concat, hoff, List.append_assoc]

end Tree

/-! ## Reading a document -/

namespace Document

/-- Whether a link, followed from a node to its end, leads through the given nodes. -/
inductive Linked (link : NodeId → Option NodeId) : Option NodeId → List NodeId → Prop
  | nil : Linked link none []
  | cons {id : NodeId} {ids : List NodeId} :
      Linked link (link id) ids → Linked link (some id) (id :: ids)

mutual

/-- Whether the node `id` and what is below it, seen through kinds and chains of siblings, is the
given tree. Each chain ends, so the list of children is all of it. -/
def Shows (doc : Document) (id : NodeId) : Tree → Prop
  | .node k cs =>
    doc.kind id = k ∧ Linked doc.nextSibling? (doc.firstChild? id) (doc.children id) ∧
      doc.ShowsAll (doc.children id) cs

/-- Whether the nodes `ids` are the given trees, one by one. -/
def ShowsAll (doc : Document) : List NodeId → List Tree → Prop
  | [], [] => True
  | id :: ids, t :: ts => doc.Shows id t ∧ doc.ShowsAll ids ts
  | [], _ :: _ => False
  | _ :: _, [] => False

end

/-- The tree below a node, read along the chains of siblings. Nesting deeper than `bound` is left
out. -/
def treeAt (doc : Document) : Nat → NodeId → Tree
  | 0, id => .node (doc.kind id) []
  | bound + 1, id => .node (doc.kind id) ((doc.children id).map (doc.treeAt bound))

/-- The tree of a document. The number of nodes is bound enough for its nesting. -/
def tree (doc : Document) : Tree :=
  doc.treeAt doc.size 0

mutual

theorem Shows.treeAt_eq {doc : Document} :
    ∀ {t : Tree} {id : NodeId} {bound : Nat}, doc.Shows id t → t.height ≤ bound →
      doc.treeAt bound id = t
  | .node k cs, id, 0, h, hb => by
    obtain ⟨hk, -, -⟩ := h
    cases cs with
    | nil => simp [treeAt, hk]
    | cons c cs =>
      simp only [Tree.height, Tree.heights] at hb
      omega
  | .node k cs, id, bound + 1, h, hb => by
    obtain ⟨hk, -, hcs⟩ := h
    rw [treeAt, hk, ShowsAll.map_treeAt hcs (by simpa [Tree.height] using hb)]

theorem ShowsAll.map_treeAt {doc : Document} :
    ∀ {ts : List Tree} {ids : List NodeId} {bound : Nat}, doc.ShowsAll ids ts →
      Tree.heights ts ≤ bound + 1 → ids.map (doc.treeAt bound) = ts
  | [], [], _, _, _ => rfl
  | [], _ :: _, _, h, _ => by simp [ShowsAll] at h
  | _ :: _, [], _, h, _ => by simp [ShowsAll] at h
  | t :: ts, id :: ids, bound, h, hb => by
    obtain ⟨ht, hts⟩ := h
    simp only [Tree.heights] at hb
    rw [List.map_cons, Shows.treeAt_eq ht (by omega), ShowsAll.map_treeAt hts (by omega)]

end

/-- The node at a place of the array. -/
theorem get?_of_toList {doc : Document} {pre post : List Node} {n : Node} {id : NodeId}
    (h : doc.nodes.toList = pre ++ n :: post) (hid : pre.length = id) :
    doc.get? id = some n := by
  rw [get?, ← Array.getElem?_toList, h, ← hid]
  simp

mutual

/-- A stretch of the array that holds the nodes of a tree shows this tree. -/
theorem shows_of_toList {doc : Document} :
    ∀ (t : Tree) {parent next : Option NodeId} {id : NodeId} {pre post : List Node},
      doc.nodes.toList = pre ++ (t.nodes parent next id ++ post) → pre.length = id →
      doc.Shows id t ∧ doc.nextSibling? id = next
  | .node k cs, parent, next, id, pre, post, h, hid => by
    rw [Tree.nodes, List.cons_append] at h
    have hget := get?_of_toList h hid
    have hrest : doc.nodes.toList =
        (pre ++ [Tree.headNode parent next none id k cs]) ++
          (Tree.nodesAll (some id) none (id + 1) cs ++ post) := by
      rw [h]
      simp
    -- the bound of a chain is the number of nodes, which is enough for the children
    have hsize : cs.length ≤ doc.size := by
      have hlength := congrArg List.length h
      have hcs := Tree.length_le_sizes cs
      simp only [Array.length_toList, List.length_append, List.length_cons,
        Tree.length_nodesAll] at hlength
      simp only [size]
      omega
    have hfirst : doc.firstChild? id = Tree.firstId none (id + 1) cs := by
      simp [firstChild?, hget, Tree.headNode]
    have hall := showsAll_of_toList cs hrest (by simp [hid]) hsize
    rw [← hfirst] at hall
    exact ⟨⟨by simp [kind, hget, Tree.headNode], hall⟩, by simp [nextSibling?, hget, Tree.headNode]⟩

/-- A stretch of the array that holds the nodes of sibling trees shows these trees, and nothing comes
behind them. -/
theorem showsAll_of_toList {doc : Document} :
    ∀ (ts : List Tree) {parent : Option NodeId} {id : NodeId} {pre post : List Node}
      {bound : Nat}, doc.nodes.toList = pre ++ (Tree.nodesAll parent none id ts ++ post) →
      pre.length = id → ts.length ≤ bound →
      Linked doc.nextSibling? (Tree.firstId none id ts) (doc.chain bound (Tree.firstId none id ts)) ∧
        doc.ShowsAll (doc.chain bound (Tree.firstId none id ts)) ts
  | [], _, _, _, _, bound, _, _, _ => by
    cases bound <;> exact ⟨.nil, trivial⟩
  | t :: ts, _, _, _, _, 0, _, _, hb => by simp at hb
  | t :: ts, parent, id, pre, post, bound + 1, h, hid, hb => by
    rw [Tree.nodesAll, List.append_assoc] at h
    obtain ⟨ht, hnext⟩ := shows_of_toList t h hid
    have hrest : doc.nodes.toList =
        (pre ++ t.nodes parent (Tree.firstId none (id + t.size) ts) id) ++
          (Tree.nodesAll parent none (id + t.size) ts ++ post) := by
      rw [h, List.append_assoc]
    have hlength : ts.length ≤ bound := by simpa using hb
    obtain ⟨hlinked, hts⟩ := showsAll_of_toList ts hrest (by simp [hid]) hlength
    rw [← hnext] at hlinked hts
    exact ⟨.cons hlinked, ht, hts⟩

end

end Document

/-- The document of a tree shows the tree from its root on. -/
theorem Tree.shows_document (t : Tree) : t.document.Shows 0 t := by
  have h : t.document.nodes.toList = [] ++ (t.nodes none none 0 ++ []) := by simp [document]
  exact (Document.shows_of_toList t h rfl).1

theorem Tree.size_document (t : Tree) : t.document.size = t.size := by
  simp [document, Document.size]

/-- **Reading the document of a tree gives the tree back.** -/
theorem Tree.tree_document (t : Tree) : t.document.tree = t := by
  refine t.shows_document.treeAt_eq ?_
  rw [size_document]
  exact Nat.le_of_lt t.height_lt_size

/-! ## Nodes that hold a tree -/

/-- The node `id` shows a tree that has no more nodes than there are. -/
structure Document.Holds (doc : Document) (id : NodeId) (t : Tree) : Prop where
  shows : doc.Shows id t
  size_le : t.size ≤ doc.size

namespace Document.Holds

theorem of_showsAll {doc : Document} :
    ∀ {ids : List NodeId} {ts : List Tree}, doc.ShowsAll ids ts →
      (∀ t ∈ ts, t.size ≤ doc.size) → List.Forall₂ doc.Holds ids ts
  | [], [], _, _ => .nil
  | [], _ :: _, h, _ => by simp [ShowsAll] at h
  | _ :: _, [], h, _ => by simp [ShowsAll] at h
  | _ :: _, t :: _, h, hle =>
    .cons ⟨h.1, hle t List.mem_cons_self⟩
      (of_showsAll h.2 fun u hu => hle u (List.mem_cons_of_mem t hu))

variable {doc : Document} {id : NodeId} {t : Tree}

theorem kind_eq (h : doc.Holds id t) : doc.kind id = t.kind := by
  cases t
  exact h.shows.1

/-- The number of nodes is bound enough for the nesting. -/
theorem height_le (h : doc.Holds id t) : t.height ≤ doc.size :=
  Nat.le_of_lt (Nat.lt_of_lt_of_le t.height_lt_size h.size_le)

/-- The children of a node hold the trees below it. -/
theorem children (h : doc.Holds id t) : List.Forall₂ doc.Holds (doc.children id) t.children := by
  obtain ⟨k, cs⟩ := t
  refine of_showsAll h.shows.2.2 fun c hc => ?_
  have hlt : c.size ≤ Tree.sizes cs := Tree.size_le_sizes hc
  have hle := h.size_le
  rw [Tree.size] at hle
  omega

end Document.Holds

theorem Tree.holds_document (t : Tree) : t.document.Holds 0 t where
  shows := t.shows_document
  size_le := Nat.le_of_eq t.size_document.symm

section

variable {α β γ : Type} {R : α → β → Prop} {l : List α} {l' : List β}

theorem map_eq_of_forall₂ (h : List.Forall₂ R l l') {f : α → γ} {g : β → γ}
    (hfg : ∀ a b, R a b → f a = g b) : l.map f = l'.map g := by
  induction h with
  | nil => rfl
  | cons hab _ ih => rw [List.map_cons, List.map_cons, hfg _ _ hab, ih]

theorem filter_of_forall₂ (h : List.Forall₂ R l l') {p : α → Bool} {q : β → Bool}
    (hpq : ∀ a b, R a b → p a = q b) : List.Forall₂ R (l.filter p) (l'.filter q) :=
  List.rel_filter (fun a b hab => Bool.eq_iff_iff.mp (hpq a b hab)) h

theorem exists_mem_of_forall₂ (h : List.Forall₂ R l l') {a : α} (ha : a ∈ l) :
    ∃ b ∈ l', R a b := by
  induction h with
  | nil => cases ha
  | @cons x y _ _ hxy _ ih =>
    rcases List.mem_cons.mp ha with rfl | ha
    · exact ⟨y, List.mem_cons_self, hxy⟩
    · obtain ⟨b, hb, hab⟩ := ih ha
      exact ⟨b, List.mem_cons_of_mem y hb, hab⟩

theorem forall_mem_iff_of_forall₂ (h : List.Forall₂ R l l') {p : α → Prop} {q : β → Prop}
    (hpq : ∀ a b, b ∈ l' → R a b → (p a ↔ q b)) : (∀ a ∈ l, p a) ↔ ∀ b ∈ l', q b := by
  induction h with
  | nil => simp
  | @cons x y _ _ hxy _ ih =>
    rw [List.forall_mem_cons, List.forall_mem_cons, hpq x y List.mem_cons_self hxy,
      ih fun a b hb => hpq a b (List.mem_cons_of_mem y hb)]

end

/-- Every child of a node holds one of the trees below it. -/
theorem Document.Holds.exists_child {doc : Document} {id : NodeId} {t : Tree}
    (h : doc.Holds id t) {c : NodeId} (hc : c ∈ doc.children id) :
    ∃ u ∈ t.children, doc.Holds c u :=
  exists_mem_of_forall₂ h.children hc

end MarkdownTree
