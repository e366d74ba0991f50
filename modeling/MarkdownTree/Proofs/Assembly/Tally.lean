import MarkdownTree.Proofs.Assembly.Moves
import MarkdownTree.Proofs.Tree.Subtrees

/-!
# What events leave in the count

Every start of a table makes one table root, and no other event makes one. A paragraph stays without
content only if an event started it: a wrapping paragraph is opened for the inline node that follows
at once.

* `Tree.isHollow` — paragraphs without content.
* `Zipper.hollows`, `Zipper.tables` — the two counts of a tree under construction, and what
  appending, opening and closing do to them.
* `Draft.Tallies` — an assembly has so many table roots more than a draft, and at most so many
  paragraphs more without content.
* `Draft.tallies_step`, `tallies_foldl_step` — the counts of events bound those of the tree.
-/

namespace MarkdownTree

/-- Whether a node is the root of a table. -/
def NodeKind.isTableRoot : NodeKind → Bool
  | .block (.tableRoot _) => true
  | _ => false

namespace Event

/-- Whether an event starts a paragraph. -/
def startsParagraph : Event → Bool
  | .start .paragraph => true
  | _ => false

/-- Whether an event starts a table. -/
def startsTable : Event → Bool
  | .start (.table _) => true
  | _ => false

end Event

/-- Whether a tree is a paragraph without content. -/
def Tree.isHollow (t : Tree) : Bool :=
  t.kind.isParagraph && t.children.isEmpty

theorem countP_cons_toNat {α : Type} (p : α → Bool) (a : α) (l : List α) :
    (a :: l).countP p = (p a).toNat + l.countP p := by
  rw [List.countP_cons, Nat.add_comm]
  cases p a <;> rfl

theorem countP_singleton_toNat {α : Type} (p : α → Bool) (a : α) : [a].countP p = (p a).toNat := by
  rw [countP_cons_toNat, List.countP_nil, Nat.add_zero]

/-! ## Counts of a tree under construction -/

namespace Zipper

open MarkdownTree.Tree

/-- Number of paragraphs without content when all containers are closed. -/
def hollows (z : Zipper) : Nat :=
  z.tree.subtrees.countP isHollow

/-- Number of table roots. -/
def tables (z : Zipper) : Nat :=
  z.tree.kinds.countP NodeKind.isTableRoot

/-- Number of paragraphs without content among what is complete in some open containers. -/
def doneHollows : List Layer → Nat
  | [] => 0
  | l :: ls => doneHollows ls + (subtreesAll l.done).countP isHollow

/-- A container with a tree in it has content. -/
theorem countP_isHollow_plug : ∀ (ls : List Layer) (t : Tree),
    (plug t ls).subtrees.countP isHollow = doneHollows ls + t.subtrees.countP isHollow
  | [], t => by rw [plug, doneHollows, Nat.zero_add]
  | l :: ls, t => by
    have hcontent : isHollow (.node l.kind (l.done ++ [t])) = false := by
      simp [isHollow, children]
    have hone : subtreesAll [t] = t.subtrees := by simp [subtreesAll]
    rw [plug, countP_isHollow_plug ls, Layer.append, Layer.close, subtrees,
      List.countP_cons_of_neg (by simp [hcontent]), subtreesAll_append, List.countP_append, hone,
      doneHollows, Nat.add_assoc]

/-- The current container is the only open one that may be without content. -/
theorem hollows_eq (z : Zipper) :
    z.hollows = doneHollows (z.layer :: z.outer) + (isHollow z.layer.close).toNat := by
  rw [hollows, tree, countP_isHollow_plug, Layer.close, subtrees, countP_cons_toNat, doneHollows]
  omega

theorem doneHollows_le (z : Zipper) : doneHollows (z.layer :: z.outer) ≤ z.hollows := by
  rw [hollows_eq]
  exact Nat.le_add_right _ _

/-- A childless node in a container. -/
theorem hollows_append (z : Zipper) (k : NodeKind) :
    (z.append [.node k []]).hollows =
      doneHollows (z.layer :: z.outer) + k.isParagraph.toNat := by
  have hcontent : isHollow (z.append [.node k []]).layer.close = false := by
    simp [isHollow, append, Layer.append, Layer.close, children]
  have hnode : isHollow (.node k []) = k.isParagraph := by
    simp [isHollow, kind, children]
  have hone : (subtreesAll [.node k []]).countP isHollow = k.isParagraph.toNat := by
    rw [← hnode, ← countP_singleton_toNat]
    rfl
  rw [hollows_eq, hcontent, append, Layer.append, doneHollows, subtreesAll_append,
    List.countP_append, hone, doneHollows, Bool.toNat_false, Nat.add_zero, Nat.add_assoc]

/-- A container that was just opened counts as a childless node does. -/
theorem hollows_openNode (z : Zipper) (k : NodeKind) :
    (z.openNode k).hollows =
      doneHollows (z.layer :: z.outer) + k.isParagraph.toNat := by
  rw [← hollows_append]
  rfl

theorem tables_append (z : Zipper) (k : NodeKind) :
    (z.append [.node k []]).tables = z.tables + k.isTableRoot.toNat := by
  rw [tables, kinds_tree_append, List.countP_append, tables, ← countP_singleton_toNat]
  rfl

theorem tables_openNode (z : Zipper) (k : NodeKind) :
    (z.openNode k).tables = z.tables + k.isTableRoot.toNat := by
  rw [tables, kinds_tree_openNode, List.countP_append, tables, ← countP_singleton_toNat]

theorem hollows_close (z : Zipper) : z.close.hollows = z.hollows := by
  rw [hollows, tree_close, hollows]

theorem tables_close (z : Zipper) : z.close.tables = z.tables := by
  rw [tables, tree_close, tables]

end Zipper

/-- Nodes without content are neither paragraphs nor table roots. -/
theorem NodeKind.uncounted_of_isAtom {k : NodeKind} (h : k.isAtom = true) :
    k.isParagraph = false ∧ k.isTableRoot = false := by
  unfold isAtom at h
  split at h
  · exact ⟨rfl, rfl⟩
  · exact ⟨rfl, rfl⟩
  · exact ⟨rfl, rfl⟩
  · exact ⟨rfl, rfl⟩
  · cases h
  · exact ⟨rfl, rfl⟩

namespace Assembly

namespace Draft

/-- Whether an assembly goes on from a draft with so many table roots more, and at most so many
paragraphs more without content. -/
def Tallies (paragraphs tables : Nat) (d : Draft) (a : Assembly) : Prop :=
  ∃ d' : Draft, a = d'.assembly ∧ d'.zipper.hollows ≤ d.zipper.hollows + paragraphs ∧
    d'.zipper.tables = d.zipper.tables + tables

theorem tallies_refl (d : Draft) : d.Tallies 0 0 d.assembly :=
  ⟨d, rfl, Nat.le_refl _, rfl⟩

/-- Counts add up. -/
theorem Tallies.trans {d : Draft} {a : Assembly} {paragraphs tables paragraphs' tables' : Nat}
    (h : d.Tallies paragraphs tables a) {f : Assembly → Assembly}
    (hf : ∀ d' : Draft, d'.Tallies paragraphs' tables' (f d'.assembly)) :
    d.Tallies (paragraphs + paragraphs') (tables + tables') (f a) := by
  obtain ⟨d', rfl, hhollows, htables⟩ := h
  obtain ⟨d'', ha, hhollows', htables'⟩ := hf d'
  refine ⟨d'', ha, ?_, ?_⟩
  · omega
  · omega

/-- Frames and definitions do not count. -/
theorem tallies_same (z : Zipper) (frames frames' : List Frame)
    (pending pending' : List Definition) :
    Tallies 0 0 ⟨z, frames, pending⟩ (Draft.assembly ⟨z, frames', pending'⟩) :=
  ⟨_, rfl, Nat.le_refl _, rfl⟩

theorem tallies_close (z : Zipper) (frames frames' : List Frame) (pending : List Definition) :
    Tallies 0 0 ⟨z, frames, pending⟩ (Draft.assembly ⟨z.close, frames', pending⟩) :=
  ⟨_, rfl, Nat.le_of_eq z.hollows_close, z.tables_close⟩

/-! ## Nodes -/

theorem tallies_closeImplicitParagraph (d : Draft) :
    d.Tallies 0 0 d.assembly.closeImplicitParagraph := by
  obtain ⟨z, frames, pending⟩ := d
  unfold closeImplicitParagraph
  split
  · split
    · next rest _ _ =>
      rw [assembly, Zipper.close_builder]
      exact tallies_close z frames rest pending
    · exact tallies_refl _
  · exact tallies_refl _

theorem tallies_leaf (d : Draft) {b : Block} (hb : (NodeKind.block b).isAtom = true) :
    d.Tallies 0 0 (d.assembly.leaf b) := by
  obtain ⟨z, frames, pending⟩ := d
  obtain ⟨hparagraph, htable⟩ := NodeKind.uncounted_of_isAtom hb
  refine ⟨⟨z.append [.node (.block b) []], frames, pending⟩, ?_, ?_, ?_⟩
  · rw [leaf, assembly, Zipper.leaf_builder]
    rfl
  · rw [Zipper.hollows_append, hparagraph]
    exact z.doneHollows_le
  · rw [Zipper.tables_append, htable]
    rfl

/-- A container that is opened counts if it is a paragraph or a table root. -/
theorem tallies_openNode (z : Zipper) (frames frames' : List Frame) (pending : List Definition)
    (b : Block) :
    Tallies (NodeKind.block b).isParagraph.toNat (NodeKind.block b).isTableRoot.toNat
      ⟨z, frames, pending⟩ ⟨z.builder.openNode (.block b), frames', pending⟩ := by
  refine ⟨⟨z.openNode (.block b), frames', pending⟩, ?_, ?_, ?_⟩
  · rw [assembly, Zipper.openNode_builder]
  · rw [Zipper.hollows_openNode]
    exact Nat.add_le_add_right z.doneHollows_le _
  · exact z.tables_openNode _

theorem tallies_openImplicit (d : Draft) (b : Block) :
    d.Tallies (NodeKind.block b).isParagraph.toNat (NodeKind.block b).isTableRoot.toNat
      (d.assembly.openImplicit b) :=
  tallies_openNode d.zipper d.frames (.implicit :: d.frames) d.pending b

theorem tallies_openBlock (d : Draft) (b : Block) :
    d.Tallies (NodeKind.block b).isParagraph.toNat (NodeKind.block b).isTableRoot.toNat
      (d.assembly.openBlock b) := by
  have h := d.tallies_closeImplicitParagraph.trans
    (f := fun a => { a with
      builder := a.builder.openNode (.block b), frames := .explicit :: a.frames })
    fun d' => tallies_openNode d'.zipper d'.frames (.explicit :: d'.frames) d'.pending b
  rwa [Nat.zero_add, Nat.zero_add] at h

theorem tallies_openFrame (d : Draft) (f : Frame) : d.Tallies 0 0 (d.assembly.openFrame f) :=
  d.tallies_closeImplicitParagraph.trans (f := fun a => { a with frames := f :: a.frames })
    fun d' => tallies_same d'.zipper d'.frames (f :: d'.frames) d'.pending d'.pending

/-- A wrapping paragraph is not yet counted: what is complete is the same, and there is no table
more. -/
theorem exists_ensureInlineContainer (d : Draft) :
    ∃ d' : Draft, d.assembly.ensureInlineContainer = d'.assembly ∧
      Zipper.doneHollows (d'.zipper.layer :: d'.zipper.outer) ≤ d.zipper.hollows ∧
      d'.zipper.tables = d.zipper.tables := by
  obtain ⟨z, frames, pending⟩ := d
  unfold ensureInlineContainer
  split
  · exact ⟨_, rfl, z.doneHollows_le, rfl⟩
  · refine ⟨⟨z.openNode (.block (.paragraph false)), .implicit :: frames, pending⟩, ?_,
      z.doneHollows_le, z.tables_openNode _⟩
    rw [openImplicit, assembly, Zipper.openNode_builder]
    rfl

theorem tallies_openInline (d : Draft) (i : Inline) : d.Tallies 0 0 (d.assembly.openInline i) := by
  obtain ⟨⟨z, frames, pending⟩, ha, hhollows, htables⟩ := d.exists_ensureInlineContainer
  refine ⟨⟨z.openNode (.inline i), .explicit :: frames, pending⟩, ?_, ?_, ?_⟩
  · rw [openInline, ha, assembly, Zipper.openNode_builder]
    rfl
  · rw [Zipper.hollows_openNode]
    exact hhollows
  · rw [Zipper.tables_openNode]
    exact htables

/-- The wrapping paragraph has content now. -/
theorem tallies_inlineLeaf (d : Draft) (i : Inline) : d.Tallies 0 0 (d.assembly.inlineLeaf i) := by
  obtain ⟨⟨z, frames, pending⟩, ha, hhollows, htables⟩ := d.exists_ensureInlineContainer
  refine ⟨⟨z.append [.node (.inline i) []], frames, pending⟩, ?_, ?_, ?_⟩
  · rw [inlineLeaf, ha, assembly, Zipper.leaf_builder]
    rfl
  · rw [Zipper.hollows_append]
    exact hhollows
  · rw [Zipper.tables_append]
    exact htables

theorem tallies_collect (d : Draft) (s : String) (i : Inline) :
    d.Tallies 0 0 (d.assembly.collect s i) := by
  unfold collect
  split
  · next kind text rest _ =>
    exact tallies_same d.zipper d.frames (.literal kind (text ++ s) :: rest) d.pending d.pending
  · exact d.tallies_inlineLeaf i

/-! ## Events -/

theorem tallies_start (d : Draft) (tag : Tag) :
    d.Tallies (Event.start tag).startsParagraph.toNat (Event.start tag).startsTable.toNat
      (d.assembly.start tag) := by
  cases tag with
  | paragraph => exact d.tallies_openBlock (.paragraph false)
  | heading level => exact d.tallies_openBlock (.heading level)
  | blockQuote => exact d.tallies_openBlock .blockQuote
  | literal kind => exact d.tallies_openFrame _
  | list start =>
    cases start with
    | none => exact d.tallies_openBlock .unorderedList
    | some n => exact d.tallies_openBlock (.orderedList n)
  | item => exact d.tallies_openBlock .listItem
  | footnoteDefinition label => exact d.tallies_openBlock (.footReferenceDefinition label)
  | definitionList => exact d.tallies_openFrame _
  | definitionListTitle => exact d.tallies_openFrame _
  | definitionListDefinition => exact d.tallies_openFrame _
  | table alignments => exact d.tallies_openBlock (.tableRoot alignments)
  | tableHead =>
    have hhead : d.Tallies 0 0 (d.assembly.openBlock .tableHeader) :=
      d.tallies_openBlock .tableHeader
    exact hhead.trans (f := fun a => a.openImplicit .tableRow)
      fun d' => d'.tallies_openImplicit .tableRow
  | tableRow =>
    rw [start_eq]
    simp only [Tag.role]
    have hbody : d.Tallies 0 0 (d.assembly.openImplicit .tableBody) :=
      d.tallies_openImplicit .tableBody
    split
    · exact hbody.trans (f := fun a => a.openBlock .tableRow)
        fun d' => d'.tallies_openBlock .tableRow
    · exact d.tallies_openBlock .tableRow
  | tableCell => exact d.tallies_openBlock .tableCell
  | emphasis => exact d.tallies_openInline _
  | strong => exact d.tallies_openInline _
  | strikethrough => exact d.tallies_openInline _
  | superscript => exact d.tallies_openInline _
  | subscript => exact d.tallies_openInline _
  | link destination title => exact d.tallies_openInline _
  | image destination title => exact d.tallies_openInline _
  | metadata => exact tallies_same d.zipper d.frames (.metadata :: d.frames) d.pending d.pending

theorem tallies_closeNodes (d : Draft) : d.Tallies 0 0 d.assembly.closeNodes := by
  obtain ⟨z, frames, pending⟩ := d
  induction frames generalizing z with
  | nil => exact tallies_refl _
  | cons f frames ih =>
    cases f with
    | implicit =>
      obtain ⟨d', ha, hhollows, htables⟩ := ih z.close
      rw [Zipper.hollows_close] at hhollows
      rw [Zipper.tables_close] at htables
      exact ⟨d', (closeNodes_implicit z frames pending).trans ha, hhollows, htables⟩
    | _ => exact tallies_refl _

theorem tallies_pop (d : Draft) : d.Tallies 0 0 d.assembly.pop := by
  obtain ⟨z, frames, pending⟩ := d
  unfold pop
  split
  · next rest _ =>
    rw [assembly, Zipper.close_builder]
    exact tallies_close z frames rest pending
  · next kind text rest _ =>
    exact tallies_leaf ⟨z, rest, pending⟩ (isAtom_literalBlock kind text)
  · next rest _ _ _ => exact tallies_same z frames rest pending pending
  · exact tallies_refl _

theorem tallies_insertBefore (position : Nat) (frames : List Frame) :
    ∀ (pending : List Definition) (z : Zipper),
      Tallies 0 0 ⟨z, frames, pending⟩
        ⟨(insertBefore position z.builder pending).1, frames,
          (insertBefore position z.builder pending).2⟩
  | [], z => tallies_refl ⟨z, frames, []⟩
  | d :: pending, z => by
    rw [insertBefore]
    split
    · obtain ⟨d', ha, hhollows, htables⟩ :=
        tallies_insertBefore position frames pending (z.append [.node d.kind []])
      refine ⟨d', ?_, ?_, ?_⟩
      · rw [← ha, Zipper.leaf_builder]
        rfl
      · rw [Zipper.hollows_append] at hhollows
        exact Nat.le_trans hhollows z.doneHollows_le
      · rw [Zipper.tables_append] at htables
        exact htables
    · exact tallies_refl ⟨z, frames, d :: pending⟩

theorem tallies_flush (d : Draft) (position : Nat) : d.Tallies 0 0 (d.assembly.flush position) := by
  unfold flush
  split
  · exact tallies_insertBefore position d.frames d.pending d.zipper
  · exact tallies_refl d

theorem tallies_stop (d : Draft) (position : Nat) : d.Tallies 0 0 (d.assembly.stop position) := by
  have hflush : d.Tallies 0 0 (d.assembly.closeNodes.flush position) :=
    d.tallies_closeNodes.trans (f := fun a => a.flush position) fun d' => d'.tallies_flush position
  rw [stop_eq]
  exact hflush.trans (f := pop) tallies_pop

theorem tallies_handle (d : Draft) (position : Nat) (e : Event) :
    d.Tallies e.startsParagraph.toNat e.startsTable.toNat (d.assembly.handle position e) := by
  cases e with
  | start tag => exact d.tallies_start tag
  | stop => exact d.tallies_stop position
  | text s =>
    simp only [handle]
    split
    · exact tallies_refl d
    · exact d.tallies_collect s _
  | html s => exact d.tallies_collect s _
  | code s => exact d.tallies_inlineLeaf _
  | inlineMath s => exact d.tallies_inlineLeaf _
  | displayMath s => exact d.tallies_inlineLeaf _
  | inlineHtml s => exact d.tallies_inlineLeaf _
  | footnoteReference label => exact d.tallies_inlineLeaf _
  | softBreak => exact d.tallies_collect "\n" _
  | hardBreak => exact d.tallies_inlineLeaf _
  | rule =>
    exact d.tallies_closeImplicitParagraph.trans (f := fun a => a.leaf .thematicBreak)
      fun d' => d'.tallies_leaf rfl
  | taskMarker checked => exact d.tallies_inlineLeaf _

/-- **An event counts if it starts a paragraph or a table.** -/
theorem tallies_step (d : Draft) (e : Located) :
    d.Tallies e.event.startsParagraph.toNat e.event.startsTable.toNat
      (d.assembly.step e) := by
  unfold step
  split
  · next hevent =>
    rw [hevent]
    exact d.tallies_stop e.last
  · have h := (d.tallies_flush e.first).trans (f := fun a => a.handle e.last e.event)
      fun d' => d'.tallies_handle e.last e.event
    rwa [Nat.zero_add, Nat.zero_add] at h

/-- **The counts of all events bound those of the tree.** -/
theorem tallies_foldl_step : ∀ (events : List Located) (d : Draft),
    d.Tallies (events.countP fun e => e.event.startsParagraph)
      (events.countP fun e => e.event.startsTable) (events.foldl step d.assembly)
  | [], d => tallies_refl d
  | e :: events, d => by
    rw [countP_cons_toNat, countP_cons_toNat]
    exact (d.tallies_step e).trans (f := fun a => events.foldl step a)
      (tallies_foldl_step events)

end Draft

end Assembly

end MarkdownTree
