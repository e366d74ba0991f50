import MarkdownTree.Proofs.Assembly.Moves
import MarkdownTree.Proofs.Tree.Kinds

/-!
# Balanced events

Where starts and ends of tags match, every tag is closed behind the last event. Nodes without a tag
that are still open could only be outside of all tags, and there is none if inline events lie inside
of tags.

* `Located.Balanced`, `Located.Enclosed` — starts and ends match; inline events lie inside of tags.
* `Draft.Rooted` — the open containers are those of the frames, and the root around them. Every move
  keeps this.
* `Frame.Nested` — the frames when some tags are open and nodes without a tag lie inside of them.
* `Nested.foldl_step` — every event keeps this, and so no frame is left behind balanced events.
-/

namespace MarkdownTree

/-- Whether an event places inline content: an inline leaf, or the start of an inline tag. -/
def Event.isInline : Event → Bool
  | .start tag =>
    match tag.role with
    | .inline _ => true
    | _ => false
  | e => e.inline?.isSome

/-- Number of tags that are open behind an event. -/
def Event.depthAfter (depth : Nat) : Event → Nat
  | .start _ => depth + 1
  | .stop => depth - 1
  | _ => depth

namespace Located

/-- Whether every end closes a tag and every tag is closed; `depth` tags are open before. -/
def Balanced : Nat → List Located → Prop
  | depth, [] => depth = 0
  | depth, e :: events =>
    (e.event = .stop → depth ≠ 0) ∧ Balanced (e.event.depthAfter depth) events

/-- Whether every inline event lies inside a tag; `depth` tags are open before. -/
def Enclosed : Nat → List Located → Prop
  | _, [] => True
  | depth, e :: events =>
    (e.event.isInline = true → depth ≠ 0) ∧ Enclosed (e.event.depthAfter depth) events

instance decidableBalanced : ∀ (depth : Nat) (events : List Located),
    Decidable (Balanced depth events)
  | depth, [] => inferInstanceAs (Decidable (depth = 0))
  | depth, e :: events =>
    have := decidableBalanced (e.event.depthAfter depth) events
    inferInstanceAs (Decidable (_ ∧ _))

instance decidableEnclosed : ∀ (depth : Nat) (events : List Located),
    Decidable (Enclosed depth events)
  | _, [] => inferInstanceAs (Decidable True)
  | depth, e :: events =>
    have := decidableEnclosed (e.event.depthAfter depth) events
    inferInstanceAs (Decidable (_ ∧ _))

end Located

namespace Assembly

/-! ## Containers and frames -/

namespace Draft

/-- The open containers below the root are those of the frames, and the root is a document. -/
structure Rooted (d : Draft) : Prop where
  aligned : d.zipper.outer.length = d.frames.countP Frame.hasNode
  document : d.zipper.tree.kinds.head? = some (.block .document)

theorem Rooted.begin (definitions : List Definition) : Rooted ⟨.new, [], definitions⟩ :=
  ⟨rfl, rfl⟩

/-- **Every move keeps containers and frames aligned.** -/
theorem Rooted.move {d d' : Draft} (h : d.Rooted) (hmove : Move d d') : d'.Rooted := by
  obtain ⟨haligned, hdocument⟩ := h
  cases hmove with
  | leaf hk _ =>
    refine ⟨haligned, ?_⟩
    rw [Zipper.kinds_tree_append, List.head?_append, hdocument]
    rfl
  | @enter z frames pending f k hf _ =>
    have hnode : f.hasNode = true := Frame.hasNode_of_opens hf
    refine ⟨?_, ?_⟩
    · rw [List.countP_cons_of_pos hnode, ← haligned]
      rfl
    · rw [Zipper.kinds_tree_openNode, List.head?_append, hdocument]
      rfl
  | @leave z frames pending f hf =>
    rw [List.countP_cons_of_pos hf] at haligned
    refine ⟨?_, by rw [Zipper.tree_close, hdocument]⟩
    -- there is a container around, since the frame has one
    obtain ⟨l, outer⟩ := z
    cases outer with
    | nil => cases haligned
    | cons o outer => exact Nat.succ.inj haligned
  | push hf => exact ⟨by rw [List.countP_cons_of_neg (by simp [hf]), haligned], hdocument⟩
  | drop hf => exact ⟨by rw [haligned, List.countP_cons_of_neg (by simp [hf])], hdocument⟩
  | insert _ =>
    refine ⟨haligned, ?_⟩
    rw [Zipper.kinds_tree_append, List.head?_append, hdocument]
    rfl

theorem Rooted.moves {d d' : Draft} (h : d.Rooted) (hmoves : Relation.ReflTransGen Move d d') :
    d'.Rooted :=
  of_moves (fun _ _ h hmove => h.move hmove) h hmoves

/-- Where no frame is left, the root is the current container. -/
theorem Rooted.kind_eq {d : Draft} (h : d.Rooted) (hframes : d.frames = []) :
    d.zipper.layer.kind = .block .document := by
  obtain ⟨⟨l, outer⟩, frames, pending⟩ := d
  obtain ⟨haligned, hdocument⟩ := h
  cases hframes
  cases outer with
  | nil => exact Option.some.inj hdocument
  | cons o outer => cases haligned

end Draft

end Assembly

/-! ## Frames of open tags -/

namespace Frame

/-- The frames when some tags are open: nodes without a tag are open inside of these only. -/
inductive Nested : Nat → List Frame → Prop
  | nil : Nested 0 []
  | tag {depth : Nat} {frames : List Frame} {f : Frame} : f ≠ .implicit → Nested depth frames →
      Nested (depth + 1) (f :: frames)
  | implicit {depth : Nat} {frames : List Frame} : Nested (depth + 1) frames →
      Nested (depth + 1) (.implicit :: frames)

namespace Nested

variable {depth : Nat} {frames : List Frame}

theorem eq_nil (h : Nested 0 frames) : frames = [] := by
  cases h
  rfl

theorem of_implicit (h : Nested depth (.implicit :: frames)) : Nested depth frames := by
  cases h with
  | tag hf _ => exact absurd rfl hf
  | implicit h => exact h

theorem of_tag {f : Frame} (h : Nested (depth + 1) (f :: frames)) (hf : f ≠ .implicit) :
    Nested depth frames := by
  cases h with
  | tag _ h => exact h
  | implicit _ => exact absurd rfl hf

/-- Inside of a tag a node without a tag may be opened. -/
theorem cons_implicit (h : Nested depth frames) (hdepth : depth ≠ 0) :
    Nested depth (.implicit :: frames) := by
  cases depth with
  | zero => exact absurd rfl hdepth
  | succ depth => exact .implicit h

end Nested

end Frame

namespace Assembly

open MarkdownTree.Frame

variable {a : Assembly} {d : Draft} {depth : Nat}

/-! ## Events on the frames -/

theorem nested_closeImplicitParagraph (h : Nested depth a.frames) :
    Nested depth a.closeImplicitParagraph.frames := by
  unfold closeImplicitParagraph
  split
  · next frames hframes =>
    split
    · rw [hframes] at h
      exact h.of_implicit
    · exact h
  · exact h

theorem nested_ensureInlineContainer (h : Nested depth a.frames) (hdepth : depth ≠ 0) :
    Nested depth a.ensureInlineContainer.frames := by
  unfold ensureInlineContainer
  split
  · exact h
  · exact h.cons_implicit hdepth

theorem nested_openBlock (h : Nested depth a.frames) (b : Block) :
    Nested (depth + 1) (a.openBlock b).frames :=
  .tag (by simp) (nested_closeImplicitParagraph h)

theorem nested_openFrame (h : Nested depth a.frames) {f : Frame} (hf : f ≠ .implicit) :
    Nested (depth + 1) (a.openFrame f).frames :=
  .tag hf (nested_closeImplicitParagraph h)

theorem nested_openInline (h : Nested depth a.frames) (hdepth : depth ≠ 0) (i : Inline) :
    Nested (depth + 1) (a.openInline i).frames :=
  .tag (by simp) (nested_ensureInlineContainer h hdepth)

theorem nested_inlineLeaf (h : Nested depth a.frames) (hdepth : depth ≠ 0) (i : Inline) :
    Nested depth (a.inlineLeaf i).frames :=
  nested_ensureInlineContainer h hdepth

theorem nested_collect (h : Nested depth a.frames) (hdepth : depth ≠ 0) (s : String) (i : Inline) :
    Nested depth (a.collect s i).frames := by
  unfold collect
  split
  · next kind text frames hframes =>
    rw [hframes] at h
    cases h with
    | tag _ h => exact .tag (by simp) h
  · exact nested_inlineLeaf h hdepth i

/-- A body without a tag is opened in a table only, and so inside of its tag. -/
theorem nested_row (hd : d.Rooted) (h : Nested depth d.frames) :
    Nested (depth + 1) (d.assembly.start .tableRow).frames := by
  rw [start_eq]
  simp only [Tag.role]
  split
  · next alignments hkind =>
    have hkind' : d.zipper.layer.kind = .block (.tableRoot alignments) := by
      rw [← hkind, Draft.assembly, Zipper.currentKind_builder]
    have hdepth : depth ≠ 0 := by
      rintro rfl
      rw [hd.kind_eq h.eq_nil] at hkind'
      cases hkind'
    exact nested_openBlock (a := d.assembly.openImplicit .tableBody) (h.cons_implicit hdepth) _
  · exact nested_openBlock h _

theorem nested_start (hd : d.Rooted) (h : Nested depth d.frames) {tag : Tag}
    (hinline : (Event.start tag).isInline = true → depth ≠ 0) :
    Nested (depth + 1) (d.assembly.start tag).frames := by
  rw [start_eq]
  cases hrole : tag.role with
  | block b => exact nested_openBlock h b
  | inline i => exact nested_openInline h (hinline (by simp [Event.isInline, hrole])) i
  | literal kind => exact nested_openFrame h (by simp)
  | transparent => exact nested_openFrame h (by simp)
  | table alignments => exact nested_openBlock h _
  | head => exact .implicit (nested_openBlock h _)
  | row => exact nested_row hd h
  | cell => exact nested_openBlock h _
  | metadata => exact .tag (by simp) h

theorem nested_closeNodes (h : Nested depth a.frames) : Nested depth a.closeNodes.frames := by
  have hclose : ∀ (frames : List Frame) (b : Builder), Nested depth frames →
      Nested depth (closeImplicits b frames).2 := by
    intro frames
    induction frames with
    | nil => exact fun _ => id
    | cons f frames ih =>
      intro b h
      cases f with
      | implicit => exact ih b.close h.of_implicit
      | _ => exact h
  exact hclose a.frames a.builder h

theorem nested_stop (h : Nested (depth + 1) a.frames) (position : Nat) :
    Nested depth (a.stop position).frames := by
  have hnodes : Nested (depth + 1) (a.closeNodes.flush position).frames := by
    rw [frames_flush]
    exact nested_closeNodes h
  have hhead := head_closeNodes a
  rw [← frames_flush _ position] at hhead
  rw [stop_eq]
  unfold pop
  split
  · next frames hframes => exact (hframes ▸ hnodes).of_tag (by simp)
  · next kind text frames hframes => exact (hframes ▸ hnodes).of_tag (by simp)
  · next f frames _ _ hframes =>
    refine (hframes ▸ hnodes).of_tag ?_
    rintro rfl
    rw [hframes] at hhead
    exact hhead rfl
  · next hframes =>
    rw [hframes] at hnodes
    cases hnodes

theorem nested_handle (hd : d.Rooted) (h : Nested depth d.frames) (position : Nat) {e : Event}
    (hstop : e = .stop → depth ≠ 0) (hinline : e.isInline = true → depth ≠ 0) :
    Nested (e.depthAfter depth) (d.assembly.handle position e).frames := by
  cases e with
  | start tag => exact nested_start hd h hinline
  | stop =>
    obtain ⟨n, rfl⟩ := Nat.exists_eq_succ_of_ne_zero (hstop rfl)
    exact nested_stop h position
  | text s =>
    simp only [handle]
    split
    · exact h
    · exact nested_collect h (hinline rfl) _ _
  | html s => exact nested_collect h (hinline rfl) _ _
  | code s => exact nested_inlineLeaf h (hinline rfl) _
  | inlineMath s => exact nested_inlineLeaf h (hinline rfl) _
  | displayMath s => exact nested_inlineLeaf h (hinline rfl) _
  | inlineHtml s => exact nested_inlineLeaf h (hinline rfl) _
  | footnoteReference label => exact nested_inlineLeaf h (hinline rfl) _
  | softBreak => exact nested_collect h (hinline rfl) _ _
  | hardBreak => exact nested_inlineLeaf h (hinline rfl) _
  | rule => exact nested_closeImplicitParagraph h
  | taskMarker checked => exact nested_inlineLeaf h (hinline rfl) _

/-- **An event opens or closes one tag at most**, and leaves nodes without a tag inside of tags. -/
theorem nested_step (hd : d.Rooted) (h : Nested depth d.frames) {e : Located}
    (hstop : e.event = .stop → depth ≠ 0) (hinline : e.event.isInline = true → depth ≠ 0) :
    Nested (e.event.depthAfter depth) (d.assembly.step e).frames := by
  obtain ⟨d', ha, hmoves⟩ := d.leads_flush e.first
  have hframes : d'.frames = d.frames := by
    show d'.assembly.frames = d.frames
    rw [← ha, frames_flush]
    rfl
  unfold step
  split
  · next hevent =>
    rw [hevent] at hstop hinline ⊢
    exact nested_handle hd h e.last hstop hinline
  · rw [ha]
    exact nested_handle (hd.moves hmoves) (hframes ▸ h) e.last hstop hinline

/-- **No frame is left behind balanced events** whose inline events lie inside of tags. -/
theorem nested_foldl_step : ∀ (events : List Located) {d : Draft} {depth : Nat}, d.Rooted →
    Nested depth d.frames → Located.Balanced depth events → Located.Enclosed depth events →
    (events.foldl step d.assembly).frames = []
  | [], _, _, _, h, hbalanced, _ => by
    cases hbalanced
    exact h.eq_nil
  | e :: events, d, depth, hd, h, hbalanced, henclosed => by
    obtain ⟨d', ha, hmoves⟩ := d.leads_step e
    have hstep := nested_step hd h hbalanced.1 henclosed.1
    rw [List.foldl_cons]
    rw [ha] at hstep ⊢
    exact nested_foldl_step events (hd.moves hmoves) hstep hbalanced.2 henclosed.2

end Assembly

end MarkdownTree
