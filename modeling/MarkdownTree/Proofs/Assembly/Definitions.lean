import MarkdownTree.Proofs.Assembly.Translation
import MarkdownTree.Proofs.Tree.Enriched

/-!
# Assembling with definitions

An assembly inserts definitions before and after it takes in an event, and nothing that it does
with the event depends on them. So it runs alongside the assembly of the same events without
definitions, and its document enriches that of the other one.

* `Assembly.Enriches` — the two assemblies have the same frames, and the builder of one enriches the
  builder of the other.
* `Enriches.step` — every event keeps this, whatever definitions are pending.
* `assemble_enriches` — the document of a forest with definitions, marked or not, holds a tree that
  enriches the tree that the forest stands for.
-/

namespace MarkdownTree

namespace Assembly

/-- An assembly enriches another one that has no definitions to insert. -/
structure Enriches (a a' : Assembly) : Prop where
  builder : a.builder.Enriches a'.builder
  frames : a.frames = a'.frames
  pending : a'.pending = []

namespace Enriches

variable {a a' : Assembly}

theorem leaf (h : a.Enriches a') (b : Block) : (a.leaf b).Enriches (a'.leaf b) :=
  ⟨h.builder.leaf _, h.frames, h.pending⟩

theorem openImplicit (h : a.Enriches a') (b : Block) :
    (a.openImplicit b).Enriches (a'.openImplicit b) :=
  ⟨h.builder.openNode _, congrArg (List.cons _) h.frames, h.pending⟩

theorem closeImplicitParagraph (h : a.Enriches a') :
    a.closeImplicitParagraph.Enriches a'.closeImplicitParagraph := by
  unfold Assembly.closeImplicitParagraph
  rw [h.frames, h.builder.currentKind_eq]
  split
  · split
    · exact ⟨h.builder.close, rfl, h.pending⟩
    · exact h
  · exact h

theorem ensureInlineContainer (h : a.Enriches a') :
    a.ensureInlineContainer.Enriches a'.ensureInlineContainer := by
  unfold Assembly.ensureInlineContainer
  rw [h.builder.currentKind_eq]
  split
  · exact h
  · exact h.openImplicit _

theorem openBlock (h : a.Enriches a') (b : Block) : (a.openBlock b).Enriches (a'.openBlock b) := by
  have hclosed := h.closeImplicitParagraph
  exact ⟨hclosed.builder.openNode _, congrArg (List.cons _) hclosed.frames, hclosed.pending⟩

theorem openInline (h : a.Enriches a') (i : Inline) :
    (a.openInline i).Enriches (a'.openInline i) := by
  have hinline := h.ensureInlineContainer
  exact ⟨hinline.builder.openNode _, congrArg (List.cons _) hinline.frames, hinline.pending⟩

theorem inlineLeaf (h : a.Enriches a') (i : Inline) :
    (a.inlineLeaf i).Enriches (a'.inlineLeaf i) := by
  have hinline := h.ensureInlineContainer
  exact ⟨hinline.builder.leaf _, hinline.frames, hinline.pending⟩

theorem openFrame (h : a.Enriches a') (f : Frame) : (a.openFrame f).Enriches (a'.openFrame f) := by
  have hclosed := h.closeImplicitParagraph
  exact ⟨hclosed.builder, congrArg (List.cons _) hclosed.frames, hclosed.pending⟩

theorem start (h : a.Enriches a') (tag : Tag) : (a.start tag).Enriches (a'.start tag) := by
  cases tag with
  | paragraph => exact h.openBlock _
  | heading level => exact h.openBlock _
  | blockQuote => exact h.openBlock _
  | literal kind => exact h.openFrame _
  | list start =>
    cases start with
    | none => exact h.openBlock _
    | some n => exact h.openBlock _
  | item => exact h.openBlock _
  | footnoteDefinition label => exact h.openBlock _
  | definitionList => exact h.openFrame _
  | definitionListTitle => exact h.openFrame _
  | definitionListDefinition => exact h.openFrame _
  | table alignments => exact h.openBlock _
  | tableHead => exact (h.openBlock _).openImplicit _
  | tableRow =>
    simp only [Assembly.start, h.builder.currentKind_eq]
    split
    · exact (h.openImplicit _).openBlock _
    · exact h.openBlock _
  | tableCell => exact h.openBlock _
  | emphasis => exact h.openInline _
  | strong => exact h.openInline _
  | strikethrough => exact h.openInline _
  | superscript => exact h.openInline _
  | subscript => exact h.openInline _
  | link destination title => exact h.openInline _
  | image destination title => exact h.openInline _
  | metadata => exact ⟨h.builder, congrArg (List.cons _) h.frames, h.pending⟩

theorem collect (h : a.Enriches a') (s : String) (i : Inline) :
    (a.collect s i).Enriches (a'.collect s i) := by
  unfold Assembly.collect
  rw [h.frames]
  split
  · exact ⟨h.builder, rfl, h.pending⟩
  · exact h.inlineLeaf i

/-! ## Inserting definitions -/

theorem insertBefore (position : Nat) : ∀ (definitions : List Definition) {b b' : Builder},
    b.Enriches b' → b.currentKind.acceptsDefinitions = true →
      (Assembly.insertBefore position b definitions).1.Enriches b'
  | [], _, _, h, _ => h
  | d :: ds, b, b', h, haccepts => by
    rw [Assembly.insertBefore]
    split
    · -- the container is still the current one behind the definition
      have hinserted := h.definition haccepts d.label d.destination d.title
      refine insertBefore position ds hinserted ?_
      rw [hinserted.currentKind_eq, ← h.currentKind_eq, haccepts]
    · exact h

/-- **Definitions that are inserted enrich.** -/
theorem flush (h : a.Enriches a') (position : Nat) : (a.flush position).Enriches a' := by
  unfold Assembly.flush
  split
  · next haccepts =>
    have hkind : a.builder.currentKind.acceptsDefinitions = true := by
      unfold acceptsDefinitions at haccepts
      split at haccepts
      · exact haccepts
      · exact haccepts
      · cases haccepts
    exact ⟨insertBefore position a.pending h.builder hkind, h.frames, h.pending⟩
  · exact h

/-! ## Whole events -/

theorem closeImplicits : ∀ (frames : List Frame) {b b' : Builder}, b.Enriches b' →
    (Assembly.closeImplicits b frames).1.Enriches (Assembly.closeImplicits b' frames).1 ∧
      (Assembly.closeImplicits b frames).2 = (Assembly.closeImplicits b' frames).2
  | .implicit :: frames, _, _, h => closeImplicits frames h.close
  | [], _, _, h => ⟨h, rfl⟩
  | .explicit :: _, _, _, h => ⟨h, rfl⟩
  | .transparent :: _, _, _, h => ⟨h, rfl⟩
  | .literal _ _ :: _, _, _, h => ⟨h, rfl⟩
  | .metadata :: _, _, _, h => ⟨h, rfl⟩

theorem closeNodes (h : a.Enriches a') : a.closeNodes.Enriches a'.closeNodes := by
  obtain ⟨hbuilder, hframes⟩ := closeImplicits a.frames h.builder
  rw [Assembly.closeNodes, Assembly.closeNodes, ← h.frames]
  exact ⟨hbuilder, hframes, h.pending⟩

theorem pop (h : a.Enriches a') : a.pop.Enriches a'.pop := by
  unfold Assembly.pop
  rw [h.frames]
  split
  · exact ⟨h.builder.close, rfl, h.pending⟩
  · exact ⟨h.builder.leaf _, rfl, h.pending⟩
  · exact ⟨h.builder, rfl, h.pending⟩
  · exact h

theorem stop (h : a.Enriches a') (position : Nat) :
    (a.stop position).Enriches (a'.stop position) := by
  have hflush := h.closeNodes.flush position
  rw [stop_eq, stop_eq, flush_of_pending_nil h.closeNodes.pending]
  exact hflush.pop

theorem handle (h : a.Enriches a') (position : Nat) (e : Event) :
    (a.handle position e).Enriches (a'.handle position e) := by
  cases e with
  | start tag => exact h.start tag
  | stop => exact h.stop position
  | text s =>
    simp only [Assembly.handle, h.frames]
    split
    · exact h
    · exact h.collect s _
  | html s => exact h.collect s _
  | code s => exact h.inlineLeaf _
  | inlineMath s => exact h.inlineLeaf _
  | displayMath s => exact h.inlineLeaf _
  | inlineHtml s => exact h.inlineLeaf _
  | footnoteReference label => exact h.inlineLeaf _
  | softBreak => exact h.collect _ _
  | hardBreak => exact h.inlineLeaf _
  | rule => exact h.closeImplicitParagraph.leaf _
  | taskMarker checked => exact h.inlineLeaf _

/-- **Every event keeps the relation**, whatever definitions are pending. -/
theorem step (h : a.Enriches a') (e : Located) : (a.step e).Enriches (a'.step e) := by
  have hflush : a'.flush e.first = a' := flush_of_pending_nil h.pending e.first
  unfold Assembly.step
  split
  · exact h.stop e.last
  · rw [hflush]
    exact (h.flush e.first).handle e.last _

theorem foldl_step (h : a.Enriches a') (events : List Located) :
    (events.foldl Assembly.step a).Enriches (events.foldl Assembly.step a') := by
  induction events generalizing a a' with
  | nil => exact h
  | cons e events ih => exact ih (h.step e)

/-- The assembly of no events, with definitions and without. -/
theorem begin (definitions : List Definition) :
    (Assembly.begin definitions).Enriches (Assembly.begin []) where
  builder := .new
  frames := rfl
  pending := by simp [Assembly.begin]

end Enriches

end Assembly

namespace Document

theorem marks_refl (doc : Document) : doc.Marks doc :=
  ⟨rfl, fun _ => rfl, fun _ => rfl, fun _ => rfl⟩

theorem marks_markTrailingParagraph (doc : Document) : doc.markTrailingParagraph.Marks doc := by
  unfold markTrailingParagraph
  split
  · next id hid =>
    have hparagraph := List.find?_some hid
    exact marks_setKind hparagraph
  · exact doc.marks_refl

/-- **A forest with definitions.** Whatever the definitions are and whether the last paragraph is
marked or not, the document holds a tree that enriches the one that the forest stands for. -/
theorem assemble_enriches {forest : List EventTree} (h : EventTree.wellNestedAll forest = true)
    (definitions : List Definition) (fadeOut : Bool) :
    ∃ t, (assemble (EventTree.eventsAll forest) definitions fadeOut).Holds 0 t ∧
      t.Enriches (EventTree.translate forest) := by
  have hrun := (Assembly.Enriches.begin definitions).foldl_step (EventTree.eventsAll forest)
  obtain ⟨z, z', hz, hz', henriches⟩ := (hrun.flush Assembly.endOfSource).builder
  -- the assembly without definitions is the reference translation
  have htree : z'.tree = EventTree.translate forest := by
    have hdoc := Assembly.document_foldl_step h
    rw [hz', Zipper.document_builder] at hdoc
    rw [← Tree.tree_document z'.tree, hdoc, Tree.tree_document]
  have hholds : z.builder.document.Holds 0 z.tree := by
    rw [Zipper.document_builder]
    exact z.tree.holds_document
  have hmarks : (assemble (EventTree.eventsAll forest) definitions fadeOut).Marks
      z.builder.document := by
    rw [assemble, hz]
    cases fadeOut with
    | true => exact marks_markTrailingParagraph _
    | false => exact marks_refl _
  exact hmarks.exists_holds hholds (htree ▸ henriches.tree)

end Document

end MarkdownTree
