import MarkdownTree.Proofs.Assembly.Inserted
import MarkdownTree.Proofs.Assembly.Tally

/-!
# What every assembled document looks like

Whatever the events are, balanced or not, the nodes of the document fit each other. Inline nodes
stand under nodes that take them, what holds text or nothing has no children, and documents do not
nest.

* `NodeKind.Fits` — which nodes may stand under which.
* `Tree.edges` — the kinds of the nodes below the topmost one, each with that of its parent.
* `Draft.Fitting` — all nodes of a draft fit their parents. Every move keeps this.
* `Document.Formed` — the same for a document, marked or not.
* `assemble_formed` — what holds of the document of any events.
-/

namespace MarkdownTree

namespace NodeKind

/-- Whether a node may have children. -/
def IsOpen (k : NodeKind) : Prop :=
  k.isAtom = false ∧ k.isDefinition = false

/-- Whether a node may stand directly under another one. -/
structure Fits (parent k : NodeKind) : Prop where
  isOpen : parent.IsOpen
  inline : k.isBlock = true ∨ parent.acceptsInline = true
  nested : k ≠ .block .document

theorem isBlock_plain (k : NodeKind) : k.plain.isBlock = k.isBlock :=
  apply_plain (fun _ => rfl) k

theorem isParagraph_plain (k : NodeKind) : k.plain.isParagraph = k.isParagraph :=
  apply_plain (fun _ => rfl) k

theorem acceptsInline_plain (k : NodeKind) : k.plain.acceptsInline = k.acceptsInline :=
  apply_plain (fun _ => rfl) k

theorem isAtom_plain (k : NodeKind) : k.plain.isAtom = k.isAtom :=
  apply_plain (fun _ => rfl) k

/-- Marks change nothing about what fits. -/
theorem Fits.of_plain_eq {parent parent' k k' : NodeKind} (h : parent.Fits k)
    (hparent : parent'.plain = parent.plain) (hk : k'.plain = k.plain) : parent'.Fits k' := by
  obtain ⟨⟨hatom, hdefinition⟩, hinline, hnested⟩ := h
  refine ⟨⟨?_, ?_⟩, ?_, ?_⟩
  · rw [← isAtom_plain, hparent, isAtom_plain, hatom]
  · rw [← isDefinition_plain, hparent, isDefinition_plain, hdefinition]
  · rwa [← isBlock_plain, hk, isBlock_plain, ← acceptsInline_plain, hparent, acceptsInline_plain]
  · rintro rfl
    exact hnested (eq_of_plain_eq hk.symm rfl)

end NodeKind

/-! ## Parents and children in document order -/

namespace Tree

mutual

/-- The kinds of the nodes below the topmost one in document order, each with that of its parent. -/
def edges : Tree → List (NodeKind × NodeKind)
  | node k cs => edgesAll k cs

/-- The same for sibling trees and what is below them. -/
def edgesAll (parent : NodeKind) : List Tree → List (NodeKind × NodeKind)
  | [] => []
  | t :: ts => (parent, t.kind) :: (t.edges ++ edgesAll parent ts)

end

theorem edgesAll_append (parent : NodeKind) : ∀ ts us : List Tree,
    edgesAll parent (ts ++ us) = edgesAll parent ts ++ edgesAll parent us
  | [], _ => rfl
  | t :: ts, us => by
    rw [List.cons_append, edgesAll, edgesAll_append parent ts, edgesAll, List.cons_append,
      List.append_assoc]

theorem mem_edgesAll_of_mem {parent : NodeKind} {c : Tree} : ∀ {ts : List Tree}, c ∈ ts →
    (parent, c.kind) ∈ edgesAll parent ts
  | t :: ts, h => by
    rw [edgesAll]
    rcases List.mem_cons.mp h with rfl | h
    · exact List.mem_cons_self
    · exact List.mem_cons_of_mem _ (List.mem_append_right _ (mem_edgesAll_of_mem h))

mutual

/-- Every child of a subtree is at the end of an edge. -/
theorem mem_edges_of_mem_subtrees {u c : Tree} : ∀ {t : Tree}, u ∈ t.subtrees → c ∈ u.children →
    (u.kind, c.kind) ∈ t.edges
  | node k cs, hu, hc => by
    rcases List.mem_cons.mp hu with rfl | hu
    · exact mem_edgesAll_of_mem hc
    · exact mem_edgesAll_of_mem_subtreesAll hu hc

theorem mem_edgesAll_of_mem_subtreesAll {u c : Tree} {parent : NodeKind} : ∀ {ts : List Tree},
    u ∈ subtreesAll ts → c ∈ u.children → (u.kind, c.kind) ∈ edgesAll parent ts
  | t :: ts, hu, hc => by
    rw [edgesAll]
    refine List.mem_cons_of_mem _ (List.mem_append.mpr ?_)
    rcases List.mem_append.mp hu with hu | hu
    · exact .inl (mem_edges_of_mem_subtrees hu hc)
    · exact .inr (mem_edgesAll_of_mem_subtreesAll hu hc)

end

end Tree

namespace Zipper

open MarkdownTree.Tree

/-- The edges around a container, up to the one that leads to it. -/
def outerEdges : List Layer → NodeKind → List (NodeKind × NodeKind)
  | [], _ => []
  | l :: ls, k => outerEdges ls l.kind ++ (edgesAll l.kind l.done ++ [(l.kind, k)])

theorem edges_plug : ∀ (ls : List Layer) (t : Tree),
    (plug t ls).edges = outerEdges ls t.kind ++ t.edges
  | [], _ => rfl
  | l :: ls, t => by
    have hone : edgesAll l.kind [t] = (l.kind, t.kind) :: t.edges := by
      rw [edgesAll, edgesAll, List.append_nil]
    rw [plug, edges_plug ls, Layer.append, Layer.close, edges, edgesAll_append, hone, outerEdges]
    simp [Tree.kind]

/-- **A node is appended with an edge from the current container**, behind all other edges. -/
theorem edges_tree_append (z : Zipper) (k : NodeKind) :
    (z.append [.node k []]).tree.edges = z.tree.edges ++ [(z.layer.kind, k)] := by
  have hone : edgesAll z.layer.kind [.node k []] = [(z.layer.kind, k)] := rfl
  rw [tree, tree, edges_plug, edges_plug, append, Layer.append, Layer.close, Layer.close, edges,
    edges, edgesAll_append, hone, List.append_assoc]
  rfl

theorem edges_tree_openNode (z : Zipper) (k : NodeKind) :
    (z.openNode k).tree.edges = z.tree.edges ++ [(z.layer.kind, k)] := by
  rw [← edges_tree_append]
  rfl

/-- The kinds of the open containers, innermost first. -/
def openKinds (z : Zipper) : List NodeKind :=
  z.layer.kind :: z.outer.map Layer.kind

theorem openKinds_close_subset (z : Zipper) : z.close.openKinds ⊆ z.openKinds := by
  obtain ⟨l, outer⟩ := z
  cases outer with
  | nil => exact List.Subset.refl _
  | cons o outer => exact List.subset_cons_self _ _

end Zipper

/-! ## Moves -/

theorem NodeKind.ne_document_of_isAtom {k : NodeKind} (h : k.isAtom = true) :
    k ≠ .block .document := by
  rintro rfl
  cases h

/-- What is opened along with a frame may have children, and it is not the root. -/
theorem Frame.isOpen_of_opens {f : Frame} {k : NodeKind} (h : f.opens k = true) :
    k.IsOpen ∧ k ≠ .block .document := by
  refine ⟨⟨?_, (Frame.isCommon_of_opens h).1⟩, ?_⟩
  · cases k with
    | inline i =>
      -- only containers are opened among the inline nodes
      cases f with
      | explicit =>
        have hi : i.isContainer = true := h
        rw [NodeKind.isAtom, hi]
        rfl
      | _ => cases h
    | block b =>
      cases b with
      | thematicBreak => cases f <;> cases h
      | indentedCodeBlock literal => cases f <;> cases h
      | fencedCodeBlock info literal => cases f <;> cases h
      | htmlBlock literal => cases f <;> cases h
      | _ => rfl
  · rintro rfl
    cases f <;> cases h

namespace Assembly

namespace Draft

/-- All nodes fit their parents, and the open containers may have children. -/
structure Fitting (d : Draft) : Prop where
  edges : ∀ e ∈ d.zipper.tree.edges, e.1.Fits e.2
  containers : ∀ k ∈ d.zipper.openKinds, k.IsOpen

theorem Fitting.begin (definitions : List Definition) : Fitting ⟨.new, [], definitions⟩ where
  edges := List.forall_mem_nil _
  containers := List.forall_mem_singleton.mpr ⟨rfl, rfl⟩

/-- A node under the current container. -/
theorem Fitting.edges_concat {d : Draft} (h : d.Fitting) {k : NodeKind} (htakes : Takes d.zipper k)
    (hk : k ≠ .block .document) :
    ∀ e ∈ d.zipper.tree.edges ++ [(d.zipper.layer.kind, k)], e.1.Fits e.2 := by
  rw [List.forall_mem_append, List.forall_mem_singleton]
  exact ⟨h.edges, h.containers _ List.mem_cons_self, htakes, hk⟩

/-- **Every move keeps the nodes fitting.** -/
theorem Fitting.move {d d' : Draft} (h : d.Fitting) (hmove : Move d d') : d'.Fitting := by
  cases hmove with
  | @leaf z frames pending k hk htakes =>
    refine ⟨?_, h.containers⟩
    show ∀ e ∈ (z.append [.node k []]).tree.edges, _
    rw [Zipper.edges_tree_append]
    exact h.edges_concat htakes (NodeKind.ne_document_of_isAtom hk)
  | @enter z frames pending f k hf htakes =>
    obtain ⟨hopen, hdocument⟩ := Frame.isOpen_of_opens hf
    refine ⟨?_, List.forall_mem_cons.mpr ⟨hopen, h.containers⟩⟩
    show ∀ e ∈ (z.openNode k).tree.edges, _
    rw [Zipper.edges_tree_openNode]
    exact h.edges_concat htakes hdocument
  | @leave z frames pending f _ =>
    obtain ⟨hedges, hcontainers⟩ := h
    rw [← Zipper.tree_close] at hedges
    exact ⟨hedges, fun k hk => hcontainers k (z.openKinds_close_subset hk)⟩
  | push _ => exact ⟨h.edges, h.containers⟩
  | drop _ => exact ⟨h.edges, h.containers⟩
  | @insert z frames pending d _ =>
    refine ⟨?_, h.containers⟩
    show ∀ e ∈ (z.append [.node d.kind []]).tree.edges, _
    rw [Zipper.edges_tree_append]
    exact h.edges_concat (.inl rfl) (by simp [Definition.kind])

theorem Fitting.moves {d d' : Draft} (h : d.Fitting) (hmoves : Relation.ReflTransGen Move d d') :
    d'.Fitting :=
  of_moves (fun _ _ h hmove => h.move hmove) h hmoves

end Draft

end Assembly

/-! ## Documents -/

namespace Document

open Assembly

/-- What is true of every assembled document: the root is a document, and every node fits its
parent. -/
structure Formed (doc : Document) : Prop where
  ordered : doc.Ordered
  root : doc.kind 0 = .block .document
  fits : ∀ parent, ∀ id ∈ doc.children parent, (doc.kind parent).Fits (doc.kind id)

/-- The number of paragraphs without children. -/
def hollows (doc : Document) : Nat :=
  doc.iter.countP fun id => (doc.kind id).isParagraph && doc.isLeaf id

section

variable {doc doc' : Document} {id : NodeId}

/-- Where there is no first child there are no children. -/
theorem Ordered.isLeaf_eq (h : doc.Ordered) (id : NodeId) :
    doc.isLeaf id = (doc.children id).isEmpty := by
  have hlinked := h.linked_children id
  rw [isLeaf]
  generalize doc.children id = ids at hlinked
  generalize doc.firstChild? id = first at hlinked
  cases hlinked with
  | nil => rfl
  | cons _ => rfl

namespace Formed

/-- Every node but the root stands under a node that it fits. -/
theorem exists_parent (h : doc.Formed) (hid : id < doc.size) (hzero : id ≠ 0) :
    ∃ parent, doc.parent? id = some parent ∧ (doc.kind parent).Fits (doc.kind id) := by
  cases hparent : doc.parent? id with
  | none => exact absurd ((h.ordered.parent?_eq_none_iff id).mp ⟨hid, hparent⟩) hzero
  | some parent =>
    have hchild : id ∈ doc.children parent := (h.ordered.mem_children_iff parent id).mpr hparent
    exact ⟨parent, rfl, h.fits parent id hchild⟩

theorem exists_acceptsInline (h : doc.Formed) (hid : id < doc.size)
    (hinline : (doc.kind id).isBlock = false) :
    ∃ parent, doc.parent? id = some parent ∧ (doc.kind parent).acceptsInline = true := by
  have hzero : id ≠ 0 := by
    rintro rfl
    rw [h.root] at hinline
    cases hinline
  obtain ⟨parent, hparent, hfits⟩ := h.exists_parent hid hzero
  refine ⟨parent, hparent, hfits.inline.resolve_left ?_⟩
  rw [hinline]
  exact Bool.false_ne_true

theorem isLeaf_of_not_isOpen (h : doc.Formed) (hopen : ¬ (doc.kind id).IsOpen) :
    doc.isLeaf id = true := by
  rw [h.ordered.isLeaf_eq, List.isEmpty_iff, List.eq_nil_iff_forall_not_mem]
  exact fun c hc => hopen (h.fits id c hc).isOpen

/-- The root is there, and it is the only document node. -/
theorem kind_eq_document_iff (h : doc.Formed) :
    (id < doc.size ∧ doc.kind id = .block .document) ↔ id = 0 := by
  constructor
  · rintro ⟨hid, hkind⟩
    by_contra hzero
    obtain ⟨parent, -, hfits⟩ := h.exists_parent hid hzero
    exact hfits.nested hkind
  · rintro rfl
    exact ⟨((h.ordered.parent?_eq_none_iff 0).mpr rfl).1, h.root⟩

end Formed

/-! ## Marks -/

/-- Marks change the kinds only, and of these only what does not count. -/
theorem Marks.formed (hm : doc'.Marks doc) (hordered : doc'.Ordered) (h : doc.Formed) :
    doc'.Formed where
  ordered := hordered
  root := by
    refine NodeKind.eq_of_plain_eq ?_ rfl
    rw [hm.plain_eq, h.root]
  fits parent id hid := by
    rw [hm.children_eq] at hid
    exact (h.fits parent id hid).of_plain_eq (hm.plain_eq parent) (hm.plain_eq id)

theorem Marks.hollows_eq (hm : doc'.Marks doc) (hordered : doc'.Ordered) (h : doc.Ordered) :
    doc'.hollows = doc.hollows := by
  have hnode : ∀ id, ((doc'.kind id).isParagraph && doc'.isLeaf id) =
      ((doc.kind id).isParagraph && doc.isLeaf id) := by
    intro id
    rw [hordered.isLeaf_eq, hm.children_eq, ← h.isLeaf_eq, ← NodeKind.isParagraph_plain,
      hm.plain_eq, NodeKind.isParagraph_plain]
  rw [hollows, hollows, iter, iter, hm.size_eq]
  exact List.countP_congr fun id _ => by rw [hnode id]

end

/-- Marking the last paragraph leaves the links alone. -/
theorem ordered_markTrailingParagraph (t : Tree) : t.document.markTrailingParagraph.Ordered := by
  rcases t.exists_marksLast with ⟨t', ht'⟩ | hnone
  · rw [ht'.document]
    exact t'.ordered_document
  · rw [markTrailingParagraph_of_noParagraph (by rwa [Tree.kinds_document])]
    exact t.ordered_document

end Document

namespace Tree

variable {t : Tree}

/-- Where all edges fit, the document is formed. -/
theorem formed_document (hkind : t.kind = .block .document) (hfits : ∀ e ∈ t.edges, e.1.Fits e.2) :
    t.document.Formed where
  ordered := t.ordered_document
  root := by rw [t.holds_document.kind_eq, hkind]
  fits parent id hid := by
    have hparent : parent ∈ t.document.iter := by
      rw [Document.iter, List.mem_range]
      by_contra hsize
      rw [Document.children_eq_nil hsize] at hid
      cases hid
    obtain ⟨u, hu, hholds⟩ := exists_mem_of_forall₂ t.forall₂_holds_document hparent
    obtain ⟨c, hc, hchild⟩ := hholds.exists_child hid
    rw [hholds.kind_eq, hchild.kind_eq]
    exact hfits _ (mem_edges_of_mem_subtrees hu hc)

/-- The paragraphs without children are the hollow subtrees. -/
theorem hollows_document (t : Tree) : t.document.hollows = t.subtrees.countP isHollow := by
  have hnode : ∀ id u, t.document.Holds id u →
      ((t.document.kind id).isParagraph && t.document.isLeaf id) = u.isHollow := by
    intro id u h
    have hlength := h.children.length_eq
    have hchildren : (t.document.children id).isEmpty = u.children.isEmpty := by
      rw [Bool.eq_iff_iff, List.isEmpty_iff_length_eq_zero, List.isEmpty_iff_length_eq_zero,
        hlength]
    rw [h.kind_eq, t.ordered_document.isLeaf_eq, hchildren, isHollow]
  rw [Document.hollows, List.countP_eq_length_filter, List.countP_eq_length_filter]
  exact (filter_of_forall₂ t.forall₂_holds_document hnode).length_eq

end Tree

/-! ## Assembled documents -/

namespace Document

open Assembly

section

variable (events : List Located) (definitions : List Definition)

theorem fits_assembled : ∀ e ∈ (assembled events definitions).edges, e.1.Fits e.2 := by
  let start : Draft := ⟨.new, [], Definition.sorted definitions⟩
  have hfitting : start.Fitting := .begin _
  have hstart : begin definitions = start.assembly := rfl
  obtain ⟨d, hd, hmoves⟩ := start.leads_foldl_step events
  obtain ⟨d', hd', hmoves'⟩ := d.leads_flush endOfSource
  have hbuilder : (finished events definitions).builder = d'.zipper.builder := by
    rw [finished, hstart, hd, hd']
    rfl
  rw [assembled_of_finished hbuilder]
  exact ((hfitting.moves hmoves).moves hmoves').edges

theorem hollows_assembled : (assembled events definitions).document.hollows ≤
    events.countP fun e => e.event.startsParagraph := by
  let start : Draft := ⟨.new, [], Definition.sorted definitions⟩
  have hstart : begin definitions = start.assembly := rfl
  obtain ⟨d, hd, hhollows, -⟩ := (start.tallies_foldl_step events).trans
    (f := fun a => a.flush endOfSource) fun d' => d'.tallies_flush endOfSource
  have hbuilder : (finished events definitions).builder = d.zipper.builder := by
    rw [finished, hstart]
    exact congrArg Assembly.builder hd
  have hzero : start.zipper.hollows = 0 := rfl
  rw [hzero, Nat.zero_add, Nat.add_zero] at hhollows
  rw [Tree.hollows_document, assembled_of_finished hbuilder]
  exact hhollows

/-- **Any events make a formed document**, and only events leave paragraphs without content. -/
theorem formed_assemble (fadeOut : Bool) : (assemble events definitions fadeOut).Formed ∧
    (assemble events definitions fadeOut).hollows ≤
      events.countP fun e => e.event.startsParagraph := by
  have hformed : (assembled events definitions).document.Formed :=
    Tree.formed_document (kind_assembled events definitions) (fits_assembled events definitions)
  have hhollows := hollows_assembled events definitions
  have hdocument := document_assembled events definitions
  cases fadeOut with
  | false =>
    rw [hdocument]
    exact ⟨hformed, hhollows⟩
  | true =>
    have hmark : assemble events definitions true =
        (assembled events definitions).document.markTrailingParagraph :=
      congrArg markTrailingParagraph hdocument
    have hmarks := marks_markTrailingParagraph (assembled events definitions).document
    have hordered := ordered_markTrailingParagraph (assembled events definitions)
    rw [hmark, hmarks.hollows_eq hordered hformed.ordered]
    exact ⟨hmarks.formed hordered hformed, hhollows⟩

end

end Document

/-- **The structure of every assembled document.** Whatever the events and the definitions are,
every inline node stands under a node that accepts inline content, nodes that hold text or nothing
and definitions have no children, and the root is the only document node. At most as many paragraphs
are without children as events start paragraphs. -/
theorem assemble_formed (events : List Located) (definitions : List Definition) (fadeOut : Bool) :
    let doc := Document.assemble events definitions fadeOut
    (∀ id < doc.size, (doc.kind id).isBlock = false →
        ∃ parent, doc.parent? id = some parent ∧ (doc.kind parent).acceptsInline = true) ∧
      (∀ id < doc.size, (doc.kind id).isAtom = true ∨ (doc.kind id).isDefinition = true →
        doc.isLeaf id = true) ∧
      (∀ id, (id < doc.size ∧ doc.kind id = .block .document) ↔ id = 0) ∧
      (doc.iter.countP fun id => (doc.kind id).isParagraph && doc.isLeaf id) ≤
        events.countP fun e => e.event.startsParagraph := by
  intro doc
  obtain ⟨hformed, hhollows⟩ := Document.formed_assemble events definitions fadeOut
  refine ⟨?_, ?_, fun id => hformed.kind_eq_document_iff, hhollows⟩
  · intro id hid hinline
    exact hformed.exists_acceptsInline hid hinline
  · rintro id - hkind
    refine hformed.isLeaf_of_not_isOpen ?_
    rintro ⟨hatom, hdefinition⟩
    rcases hkind with hkind | hkind
    · rw [hatom] at hkind
      cases hkind
    · rw [hdefinition] at hkind
      cases hkind

end MarkdownTree
