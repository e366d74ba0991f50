import Mathlib.Logic.Relation
import MarkdownTree.Proofs.Assembly.Translation

/-!
# What an assembly can do

Whatever the events are, balanced or not, an assembly makes six kinds of moves only. What holds of
each of them holds of every assembly.

* `Assembly.Draft` — an assembly whose builder is a zipper.
* `Draft.Move` — the moves, with what they look at before.
* `Draft.of_moves` — what every move keeps holds behind all moves.
* `Draft.leads_step`, `leads_foldl_step`, `leads_flush` — events and insertions are moves.
-/

namespace MarkdownTree

/-- The kind of the node of a definition. -/
def Definition.kind (d : Definition) : NodeKind :=
  .block (.linkReferenceDefinition d.label d.destination d.title)

/-- Whether an event that is no definition appends nodes of this kind without content. -/
def NodeKind.isAtom : NodeKind → Bool
  | .block .thematicBreak => true
  | .block (.indentedCodeBlock _) => true
  | .block (.fencedCodeBlock _ _) => true
  | .block (.htmlBlock _) => true
  | .block _ => false
  | .inline i => !i.isContainer

namespace Frame

/-- Whether a frame stands for an open container. -/
def hasNode : Frame → Bool
  | explicit | implicit => true
  | transparent | literal _ _ | metadata => false

/-- Whether a node of some kind is opened along with a frame. -/
def opens : Frame → NodeKind → Bool
  | explicit, .block b =>
    match b with
    | .paragraph fadeOut => !fadeOut
    | .heading _ | .blockQuote | .unorderedList | .orderedList _ | .listItem => true
    | .footReferenceDefinition _ => true
    | .tableRoot _ | .tableHeader | .tableRow | .tableCell => true
    | _ => false
  | explicit, .inline i => i.isContainer
  | implicit, .block b =>
    match b with
    | .paragraph fadeOut => !fadeOut
    | .tableRow | .tableBody => true
    | _ => false
  | _, _ => false

theorem hasNode_of_opens {f : Frame} {k : NodeKind} (h : f.opens k = true) : f.hasNode = true := by
  cases f with
  | explicit => rfl
  | implicit => rfl
  | transparent => cases k <;> cases h
  | literal kind text => cases k <;> cases h
  | metadata => cases k <;> cases h

end Frame

namespace Assembly

/-- An assembly whose builder is a zipper. -/
structure Draft where
  zipper : Zipper
  frames : List Frame
  pending : List Definition
deriving Repr, Inhabited

/-- Nodes without a tag are no longer innermost when they are closed. -/
theorem head_closeNodes (a : Assembly) : a.closeNodes.frames.head? ≠ some .implicit := by
  have hclose : ∀ (frames : List Frame) (b : Builder),
      (closeImplicits b frames).2.head? ≠ some .implicit := by
    intro frames
    induction frames with
    | nil => simp [closeImplicits]
    | cons f frames ih =>
      intro b
      cases f with
      | implicit => exact ih b.close
      | _ => simp [closeImplicits]
  exact hclose a.frames a.builder

theorem frames_flush (a : Assembly) (position : Nat) : (a.flush position).frames = a.frames := by
  unfold flush
  split <;> rfl

namespace Draft

/-- The assembly of a draft. -/
def assembly (d : Draft) : Assembly :=
  ⟨d.zipper.builder, d.frames, d.pending⟩

/-- Whether a node may be placed into the current container: inline nodes need one that takes
them. -/
def Takes (z : Zipper) (k : NodeKind) : Prop :=
  k.isBlock = true ∨ z.layer.kind.acceptsInline = true

/-- One move of an assembly. -/
inductive Move : Draft → Draft → Prop
  /-- A node without content. -/
  | leaf {z : Zipper} {frames : List Frame} {pending : List Definition} {k : NodeKind} :
      k.isAtom = true → Takes z k →
      Move ⟨z, frames, pending⟩ ⟨z.append [.node k []], frames, pending⟩
  /-- A container and its frame. -/
  | enter {z : Zipper} {frames : List Frame} {pending : List Definition} {f : Frame}
      {k : NodeKind} : f.opens k = true → Takes z k →
      Move ⟨z, frames, pending⟩ ⟨z.openNode k, f :: frames, pending⟩
  /-- Back to the container around, and the frame goes. -/
  | leave {z : Zipper} {frames : List Frame} {pending : List Definition} {f : Frame} :
      f.hasNode = true → Move ⟨z, f :: frames, pending⟩ ⟨z.close, frames, pending⟩
  /-- A frame without a container. -/
  | push {z : Zipper} {frames : List Frame} {pending : List Definition} {f : Frame} :
      f.hasNode = false → Move ⟨z, frames, pending⟩ ⟨z, f :: frames, pending⟩
  /-- The end of such a frame. -/
  | drop {z : Zipper} {frames : List Frame} {pending : List Definition} {f : Frame} :
      f.hasNode = false → Move ⟨z, f :: frames, pending⟩ ⟨z, frames, pending⟩
  /-- The next definition, where definitions are accepted. -/
  | insert {z : Zipper} {frames : List Frame} {pending : List Definition} {d : Definition} :
      (Draft.assembly ⟨z, frames, d :: pending⟩).acceptsDefinitions = true →
      Move ⟨z, frames, d :: pending⟩ ⟨z.append [.node d.kind []], frames, pending⟩

/-- What every move keeps holds behind all moves. -/
theorem of_moves {P : Draft → Prop} (hmove : ∀ d d', P d → Move d d' → P d') {d d' : Draft}
    (h : P d) (hmoves : Relation.ReflTransGen Move d d') : P d' := by
  induction hmoves with
  | refl => exact h
  | tail _ hlast ih => exact hmove _ _ ih hlast

/-- Whether moves lead from a draft to an assembly. -/
def Leads (d : Draft) (a : Assembly) : Prop :=
  ∃ d', a = d'.assembly ∧ Relation.ReflTransGen Move d d'

theorem leads_refl (d : Draft) : d.Leads d.assembly :=
  ⟨d, rfl, .refl⟩

theorem leads_of_move {d d' : Draft} (h : Move d d') : d.Leads d'.assembly :=
  ⟨d', rfl, .single h⟩

/-- What moves lead to from where other moves lead to. -/
theorem Leads.trans {d : Draft} {a : Assembly} (h : d.Leads a) {f : Assembly → Assembly}
    (hf : ∀ d' : Draft, d'.Leads (f d'.assembly)) : d.Leads (f a) := by
  obtain ⟨d', rfl, hmoves⟩ := h
  obtain ⟨d'', ha, hmoves'⟩ := hf d'
  exact ⟨d'', ha, hmoves.trans hmoves'⟩

/-! ## Wrapping paragraphs -/

theorem leads_closeImplicitParagraph (d : Draft) : d.Leads d.assembly.closeImplicitParagraph := by
  obtain ⟨z, frames, pending⟩ := d
  unfold closeImplicitParagraph
  split
  · next rest hframes =>
    change frames = .implicit :: rest at hframes
    subst hframes
    split
    · rw [assembly, Zipper.close_builder]
      exact leads_of_move (.leave rfl)
    · exact leads_refl _
  · exact leads_refl _

/-- Behind this the current container takes inline content. -/
theorem leads_ensureInlineContainer (d : Draft) :
    ∃ d' : Draft, d.assembly.ensureInlineContainer = d'.assembly ∧
      d'.zipper.layer.kind.acceptsInline = true ∧ Relation.ReflTransGen Move d d' := by
  obtain ⟨z, frames, pending⟩ := d
  have hkind : (Draft.assembly ⟨z, frames, pending⟩).builder.currentKind = z.layer.kind :=
    z.currentKind_builder
  unfold ensureInlineContainer
  rw [hkind]
  split
  · next haccepts => exact ⟨_, rfl, haccepts, .refl⟩
  · refine ⟨⟨z.openNode (.block (.paragraph false)), .implicit :: frames, pending⟩, ?_, rfl,
      .single (.enter rfl (.inl rfl))⟩
    rw [openImplicit, assembly, Zipper.openNode_builder]
    rfl

/-! ## Nodes and frames -/

theorem leads_leaf (d : Draft) {b : Block} (hb : (NodeKind.block b).isAtom = true) :
    d.Leads (d.assembly.leaf b) := by
  obtain ⟨z, frames, pending⟩ := d
  rw [leaf, assembly, Zipper.leaf_builder]
  exact leads_of_move (.leaf hb (.inl rfl))

theorem leads_openImplicit (d : Draft) {b : Block}
    (hb : Frame.implicit.opens (.block b) = true) : d.Leads (d.assembly.openImplicit b) := by
  obtain ⟨z, frames, pending⟩ := d
  rw [openImplicit, assembly, Zipper.openNode_builder]
  exact leads_of_move (.enter hb (.inl rfl))

theorem leads_openBlock (d : Draft) {b : Block} (hb : Frame.explicit.opens (.block b) = true) :
    d.Leads (d.assembly.openBlock b) := by
  refine d.leads_closeImplicitParagraph.trans
    (f := fun a => { a with
      builder := a.builder.openNode (.block b), frames := .explicit :: a.frames }) fun d' => ?_
  obtain ⟨z, frames, pending⟩ := d'
  rw [assembly, Zipper.openNode_builder]
  exact leads_of_move (.enter hb (.inl rfl))

theorem leads_openFrame (d : Draft) {f : Frame} (hf : f.hasNode = false) :
    d.Leads (d.assembly.openFrame f) :=
  d.leads_closeImplicitParagraph.trans (f := fun a => { a with frames := f :: a.frames })
    fun _ => leads_of_move (.push hf)

theorem leads_openInline (d : Draft) {i : Inline} (hi : i.isContainer = true) :
    d.Leads (d.assembly.openInline i) := by
  obtain ⟨⟨z, frames, pending⟩, ha, haccepts, hmoves⟩ := d.leads_ensureInlineContainer
  refine ⟨⟨z.openNode (.inline i), .explicit :: frames, pending⟩, ?_,
    hmoves.tail (.enter hi (.inr haccepts))⟩
  rw [openInline, ha, assembly, Zipper.openNode_builder]
  rfl

theorem leads_inlineLeaf (d : Draft) {i : Inline} (hi : i.isContainer = false) :
    d.Leads (d.assembly.inlineLeaf i) := by
  obtain ⟨⟨z, frames, pending⟩, ha, haccepts, hmoves⟩ := d.leads_ensureInlineContainer
  refine ⟨⟨z.append [.node (.inline i) []], frames, pending⟩, ?_,
    hmoves.tail (.leaf (by rw [NodeKind.isAtom, hi]; rfl) (.inr haccepts))⟩
  rw [inlineLeaf, ha, assembly, Zipper.leaf_builder]
  rfl

/-- Text is an inline leaf, or the frame of a literal is replaced. -/
theorem leads_collect (d : Draft) (s : String) {i : Inline} (hi : i.isContainer = false) :
    d.Leads (d.assembly.collect s i) := by
  obtain ⟨z, frames, pending⟩ := d
  unfold collect
  split
  · next kind text rest hframes =>
    change frames = .literal kind text :: rest at hframes
    subst hframes
    exact ⟨⟨z, .literal kind (text ++ s) :: rest, pending⟩, rfl,
      .tail (.single (.drop rfl)) (.push rfl)⟩
  · exact leads_inlineLeaf _ hi

/-! ## Tags -/

theorem leads_start (d : Draft) (tag : Tag) : d.Leads (d.assembly.start tag) := by
  cases tag with
  | paragraph => exact d.leads_openBlock rfl
  | heading level => exact d.leads_openBlock rfl
  | blockQuote => exact d.leads_openBlock rfl
  | literal kind => exact d.leads_openFrame rfl
  | list start =>
    cases start with
    | none => exact d.leads_openBlock rfl
    | some n => exact d.leads_openBlock rfl
  | item => exact d.leads_openBlock rfl
  | footnoteDefinition label => exact d.leads_openBlock rfl
  | definitionList => exact d.leads_openFrame rfl
  | definitionListTitle => exact d.leads_openFrame rfl
  | definitionListDefinition => exact d.leads_openFrame rfl
  | table alignments => exact d.leads_openBlock rfl
  | tableHead =>
    have hhead : d.Leads (d.assembly.openBlock .tableHeader) := d.leads_openBlock rfl
    exact hhead.trans (f := fun a => a.openImplicit .tableRow) fun d' => d'.leads_openImplicit rfl
  | tableRow =>
    rw [start_eq]
    simp only [Tag.role]
    have hbody : d.Leads (d.assembly.openImplicit .tableBody) := d.leads_openImplicit rfl
    split
    · exact hbody.trans (f := fun a => a.openBlock .tableRow) fun d' => d'.leads_openBlock rfl
    · exact d.leads_openBlock rfl
  | tableCell => exact d.leads_openBlock rfl
  | emphasis => exact d.leads_openInline rfl
  | strong => exact d.leads_openInline rfl
  | strikethrough => exact d.leads_openInline rfl
  | superscript => exact d.leads_openInline rfl
  | subscript => exact d.leads_openInline rfl
  | link destination title => exact d.leads_openInline rfl
  | image destination title => exact d.leads_openInline rfl
  | metadata => exact leads_of_move (.push rfl)

/-- A node without a tag that is innermost is closed first. -/
theorem closeNodes_implicit (z : Zipper) (frames : List Frame) (pending : List Definition) :
    (Draft.assembly ⟨z, .implicit :: frames, pending⟩).closeNodes =
      (Draft.assembly ⟨z.close, frames, pending⟩).closeNodes := by
  simp only [closeNodes, assembly, closeImplicits, Zipper.close_builder]

theorem isAtom_literalBlock (kind : LiteralKind) (text : String) :
    (NodeKind.block (literalBlock kind text)).isAtom = true := by
  cases kind <;> rfl

theorem leads_closeNodes (d : Draft) : d.Leads d.assembly.closeNodes := by
  obtain ⟨z, frames, pending⟩ := d
  induction frames generalizing z with
  | nil => exact leads_refl _
  | cons f frames ih =>
    cases f with
    | implicit =>
      obtain ⟨d', ha, hmoves⟩ := ih z.close
      exact ⟨d', (closeNodes_implicit z frames pending).trans ha, hmoves.head (.leave rfl)⟩
    | _ => exact leads_refl _

/-- The innermost tag may be left when all nodes without a tag in it are closed. -/
theorem leads_pop {d : Draft} (h : d.frames.head? ≠ some .implicit) :
    d.Leads d.assembly.pop := by
  obtain ⟨z, frames, pending⟩ := d
  cases frames with
  | nil => exact leads_refl _
  | cons f frames =>
    cases f with
    | explicit =>
      show Leads _ ⟨z.builder.close, frames, pending⟩
      rw [Zipper.close_builder]
      exact leads_of_move (.leave rfl)
    | literal kind text =>
      have hdrop : Leads ⟨z, .literal kind text :: frames, pending⟩
          (Draft.assembly ⟨z, frames, pending⟩) := leads_of_move (.drop rfl)
      exact hdrop.trans (f := fun a => a.leaf (literalBlock kind text))
        fun d' => d'.leads_leaf (isAtom_literalBlock kind text)
    | implicit => exact absurd rfl h
    | transparent => exact leads_of_move (.drop rfl)
    | metadata => exact leads_of_move (.drop rfl)

/-! ## Definitions -/

theorem acceptsDefinitions_append (z : Zipper) (frames : List Frame)
    (pending pending' : List Definition) (ts : List Tree) :
    (Draft.assembly ⟨z.append ts, frames, pending'⟩).acceptsDefinitions =
      (Draft.assembly ⟨z, frames, pending⟩).acceptsDefinitions := by
  unfold acceptsDefinitions assembly
  simp only [Zipper.currentKind_builder, Zipper.layer_append_kind]

theorem leads_insertBefore (position : Nat) (frames : List Frame) :
    ∀ (pending : List Definition) (z : Zipper),
      (Draft.assembly ⟨z, frames, pending⟩).acceptsDefinitions = true →
      Leads ⟨z, frames, pending⟩
        ⟨(insertBefore position z.builder pending).1, frames,
          (insertBefore position z.builder pending).2⟩
  | [], z, _ => leads_refl ⟨z, frames, []⟩
  | d :: pending, z, haccepts => by
    rw [insertBefore]
    split
    · have hmove : Move ⟨z, frames, d :: pending⟩ ⟨z.append [.node d.kind []], frames, pending⟩ :=
        .insert haccepts
      rw [← acceptsDefinitions_append z frames (d :: pending) pending [.node d.kind []]] at haccepts
      obtain ⟨d', ha, hmoves⟩ := leads_insertBefore position frames pending _ haccepts
      refine ⟨d', ?_, hmoves.head hmove⟩
      rw [← ha, Zipper.leaf_builder]
      rfl
    · exact leads_refl ⟨z, frames, d :: pending⟩

theorem leads_flush (d : Draft) (position : Nat) : d.Leads (d.assembly.flush position) := by
  unfold flush
  split
  · next haccepts => exact leads_insertBefore position d.frames d.pending d.zipper haccepts
  · exact leads_refl d

/-! ## Events -/

theorem leads_stop (d : Draft) (position : Nat) : d.Leads (d.assembly.stop position) := by
  have hflush : d.Leads (d.assembly.closeNodes.flush position) :=
    d.leads_closeNodes.trans (f := fun a => a.flush position) fun d' => d'.leads_flush position
  obtain ⟨d', ha, hmoves⟩ := hflush
  have hhead : d'.frames.head? ≠ some .implicit := by
    have hframes : d'.frames = d.assembly.closeNodes.frames := by
      rw [← frames_flush _ position, ha]
      rfl
    rw [hframes]
    exact head_closeNodes d.assembly
  obtain ⟨d'', ha', hmoves'⟩ := leads_pop hhead
  exact ⟨d'', by rw [stop_eq, ha, ha'], hmoves.trans hmoves'⟩

theorem leads_handle (d : Draft) (position : Nat) (e : Event) :
    d.Leads (d.assembly.handle position e) := by
  cases e with
  | start tag => exact d.leads_start tag
  | stop => exact d.leads_stop position
  | text s =>
    simp only [handle]
    split
    · exact leads_refl d
    · exact d.leads_collect s rfl
  | html s => exact d.leads_collect s rfl
  | code s => exact d.leads_inlineLeaf rfl
  | inlineMath s => exact d.leads_inlineLeaf rfl
  | displayMath s => exact d.leads_inlineLeaf rfl
  | inlineHtml s => exact d.leads_inlineLeaf rfl
  | footnoteReference label => exact d.leads_inlineLeaf rfl
  | softBreak => exact d.leads_collect "\n" rfl
  | hardBreak => exact d.leads_inlineLeaf rfl
  | rule =>
    exact d.leads_closeImplicitParagraph.trans (f := fun a => a.leaf .thematicBreak)
      fun d' => d'.leads_leaf rfl
  | taskMarker checked => exact d.leads_inlineLeaf rfl

/-- **An event is a few moves.** -/
theorem leads_step (d : Draft) (e : Located) : d.Leads (d.assembly.step e) := by
  unfold step
  split
  · exact d.leads_stop e.last
  · exact (d.leads_flush e.first).trans (f := fun a => a.handle e.last _)
      fun d' => d'.leads_handle e.last _

/-- **All events are moves.** -/
theorem leads_foldl_step (events : List Located) (d : Draft) :
    d.Leads (events.foldl step d.assembly) := by
  induction events generalizing d with
  | nil => exact leads_refl d
  | cons e events ih => exact (d.leads_step e).trans (f := fun a => events.foldl step a) ih

end Draft

end Assembly

end MarkdownTree
