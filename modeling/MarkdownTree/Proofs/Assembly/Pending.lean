import MarkdownTree.Proofs.Assembly.Among

/-!
# Definitions that stay pending

What an assembly does with an event does not depend on the definitions that are pending, except that
it inserts some of them before.

* `Assembly.withPending` — the same assembly with other definitions pending.
* `handle_withPending`, `pop_withPending` — taking in an event ignores what is pending.
* `flush_bare`, `flush_of_refuses`, `flush_of_forall_le` — which definitions are inserted.
* `Assembly.Refuses` — the places where none is.
* `step_waiting`, `step_stop_waiting` — an event before which no definition is inserted.
-/

namespace MarkdownTree

namespace Assembly

/-- The same assembly with other definitions pending. -/
def withPending (a : Assembly) (ds : List Definition) : Assembly :=
  { a with pending := ds }

/-! ## Operations that insert nothing -/

section

variable (a : Assembly) (ds : List Definition)

theorem closeImplicitParagraph_withPending :
    (a.withPending ds).closeImplicitParagraph = a.closeImplicitParagraph.withPending ds := by
  obtain ⟨b, frames, pending⟩ := a
  cases frames with
  | nil => rfl
  | cons f frames =>
    cases f with
    | implicit =>
      cases h : b.currentKind.isParagraph <;> simp [closeImplicitParagraph, withPending, h]
    | _ => rfl

theorem ensureInlineContainer_withPending :
    (a.withPending ds).ensureInlineContainer = a.ensureInlineContainer.withPending ds := by
  cases h : a.builder.currentKind.acceptsInline <;>
    simp [ensureInlineContainer, withPending, openImplicit, h]

theorem openBlock_withPending (b : Block) :
    (a.withPending ds).openBlock b = (a.openBlock b).withPending ds := by
  rw [openBlock, closeImplicitParagraph_withPending]
  rfl

theorem openFrame_withPending (f : Frame) :
    (a.withPending ds).openFrame f = (a.openFrame f).withPending ds := by
  rw [openFrame, closeImplicitParagraph_withPending]
  rfl

theorem openInline_withPending (i : Inline) :
    (a.withPending ds).openInline i = (a.openInline i).withPending ds := by
  rw [openInline, ensureInlineContainer_withPending]
  rfl

theorem inlineLeaf_withPending (i : Inline) :
    (a.withPending ds).inlineLeaf i = (a.inlineLeaf i).withPending ds := by
  rw [inlineLeaf, ensureInlineContainer_withPending]
  rfl

theorem collect_withPending (s : String) (i : Inline) :
    (a.withPending ds).collect s i = (a.collect s i).withPending ds := by
  obtain ⟨b, frames, pending⟩ := a
  cases frames with
  | nil => exact inlineLeaf_withPending ..
  | cons f frames =>
    cases f with
    | literal kind text => rfl
    | _ => exact inlineLeaf_withPending ..

theorem start_withPending (tag : Tag) :
    (a.withPending ds).start tag = (a.start tag).withPending ds := by
  rw [start_eq, start_eq]
  cases tag.role with
  | block b => exact openBlock_withPending ..
  | inline i => exact openInline_withPending ..
  | literal kind => exact openFrame_withPending ..
  | transparent => exact openFrame_withPending ..
  | table alignments => exact openBlock_withPending ..
  | head =>
    simp only [openBlock_withPending]
    rfl
  | row =>
    have hkind : (a.withPending ds).builder.currentKind = a.builder.currentKind := rfl
    simp only [hkind]
    split
    · exact openBlock_withPending (a.openImplicit .tableBody) ds _
    · exact openBlock_withPending ..
  | cell => exact openBlock_withPending ..
  | metadata => rfl

/-- **Handling an event ignores what is pending**, if it does not close a tag. -/
theorem handle_withPending (position : Nat) {e : Event} (he : e ≠ .stop) :
    (a.withPending ds).handle position e = (a.handle position e).withPending ds := by
  cases e with
  | start tag => exact start_withPending a ds tag
  | stop => exact absurd rfl he
  | text s =>
    have hframes : (a.withPending ds).frames = a.frames := rfl
    simp only [handle, hframes]
    split
    · rfl
    · exact collect_withPending ..
  | html s => exact collect_withPending ..
  | code s => exact inlineLeaf_withPending ..
  | inlineMath s => exact inlineLeaf_withPending ..
  | displayMath s => exact inlineLeaf_withPending ..
  | inlineHtml s => exact inlineLeaf_withPending ..
  | footnoteReference label => exact inlineLeaf_withPending ..
  | softBreak => exact collect_withPending ..
  | hardBreak => exact inlineLeaf_withPending ..
  | rule =>
    simp only [handle, closeImplicitParagraph_withPending]
    rfl
  | taskMarker checked => exact inlineLeaf_withPending ..

theorem closeNodes_withPending : (a.withPending ds).closeNodes = a.closeNodes.withPending ds := rfl

theorem pop_withPending : (a.withPending ds).pop = a.pop.withPending ds := by
  obtain ⟨b, frames, pending⟩ := a
  cases frames with
  | nil => rfl
  | cons f frames => cases f <;> rfl

end

/-! ## Insertions -/

theorem insertBefore_builder (position : Nat) : ∀ (ds : List Definition) (z : Zipper),
    insertBefore position z.builder ds =
      ((z.append ((Definition.upTo position ds).map Definition.tree)).builder,
        Definition.onwards position ds)
  | [], z => by
    rw [Definition.upTo_nil, List.map_nil, Zipper.append_nil]
    rfl
  | d :: ds, z => by
    rw [insertBefore, Definition.upTo, Definition.onwards, List.takeWhile_cons,
      List.dropWhile_cons]
    by_cases hd : d.first < position
    · rw [if_pos hd, if_pos (decide_eq_true hd), if_pos (decide_eq_true hd), Zipper.leaf_builder,
        insertBefore_builder position ds, Zipper.append_append]
      rfl
    · rw [if_neg hd, if_neg (by simpa using hd), if_neg (by simpa using hd), List.map_nil,
        Zipper.append_nil]

/-- Where definitions are accepted, those are inserted that start before the position. -/
theorem flush_bare {z : Zipper} {frames : List Frame}
    (h : (bare z frames).acceptsDefinitions = true) (ds : List Definition) (position : Nat) :
    ((bare z frames).withPending ds).flush position =
      (bare (z.append ((Definition.upTo position ds).map Definition.tree)) frames).withPending
        (Definition.onwards position ds) := by
  have haccepts : ((bare z frames).withPending ds).acceptsDefinitions = true := h
  have hinsert : insertBefore position ((bare z frames).withPending ds).builder
      ((bare z frames).withPending ds).pending = _ := insertBefore_builder position ds z
  rw [flush, if_pos haccepts, hinsert]
  rfl

/-- Where definitions are not accepted, none is inserted. -/
theorem flush_of_refuses {a : Assembly} (h : a.acceptsDefinitions = false) (position : Nat) :
    a.flush position = a := by
  rw [flush, if_neg (by simp [h])]

/-- Definitions that start later are not inserted. -/
theorem flush_of_forall_le {a : Assembly} {position : Nat}
    (h : ∀ d ∈ a.pending, position ≤ d.first) : a.flush position = a := by
  have hinsert : insertBefore position a.builder a.pending = (a.builder, a.pending) := by
    cases hpending : a.pending with
    | nil => rfl
    | cons d ds =>
      rw [insertBefore, if_neg (Nat.not_lt.mpr (h d (by rw [hpending]; exact List.mem_cons_self)))]
  rw [flush, hinsert]
  split <;> rfl

/-! ## Places where nothing is inserted -/

/-- Whether no definition is accepted inside a container. -/
def Refuses (z : Zipper) (frames : List Frame) : Prop :=
  ∀ c : Content, (inside z frames c).acceptsDefinitions = false

/-- No definition is inserted into a run. -/
theorem refuses_of_run {c : Content} (h : c.run ≠ []) (z : Zipper) (frames : List Frame) :
    (inside z frames c).acceptsDefinitions = false := by
  obtain ⟨done, run⟩ := c
  cases run with
  | nil => exact absurd rfl h
  | cons t ts => rfl

theorem refuses_bare {z : Zipper} (h : z.layer.kind.acceptsDefinitions = false)
    (frames : List Frame) : (bare z frames).acceptsDefinitions = false := by
  simp only [acceptsDefinitions, bare, Zipper.currentKind_builder, h]
  split <;> rfl

theorem refuses_of_kind {z : Zipper} (h : z.layer.kind.acceptsDefinitions = false)
    (frames : List Frame) : Refuses z frames := by
  rintro ⟨done, run⟩
  cases run with
  | nil => exact refuses_bare (by simpa using h) frames
  | cons t ts => rfl

theorem refuses_transparent (z : Zipper) (frames : List Frame) :
    Refuses z (.transparent :: frames) := by
  rintro ⟨done, run⟩
  cases run <;> rfl

/-- The end of a tag closes the wrapping paragraph first. -/
theorem closeNodes_inside {z : Zipper} {frames : List Frame} {c : Content} (hs : Settled frames) :
    (inside z frames c).closeNodes = inside z frames ⟨c.trees, []⟩ := by
  have hclose : ∀ b : Builder, closeImplicits b frames = (b, frames) := by
    intro b
    match frames, hs with
    | [], _ => rfl
    | .explicit :: _, _ => rfl
    | .transparent :: _, _ => rfl
  obtain ⟨done, run⟩ := c
  cases run with
  | nil => simp [bare, closeNodes, hclose]
  | cons t ts =>
    rw [inside_of_run_nil, ← close_inParagraph z _ (by simp)]
    simp [inside, bare, closeNodes, closeImplicits, hclose]

/-! ## Events in front of which definitions wait -/

section

variable {a : Assembly} {held later : List Definition} {position : Nat}

/-- Definitions wait where they are not accepted, and where they start later. -/
theorem flush_waiting (hheld : held = [] ∨ a.acceptsDefinitions = false)
    (hlater : ∀ d ∈ later, position ≤ d.first) :
    (a.withPending (held ++ later)).flush position = a.withPending (held ++ later) := by
  rcases hheld with rfl | hrefuses
  · exact flush_of_forall_le hlater
  · exact flush_of_refuses (a := a.withPending (held ++ later)) hrefuses position

theorem step_waiting (ha : a.pending = []) {e : Event} (he : e ≠ .stop) {first last : Nat}
    (hheld : held = [] ∨ a.acceptsDefinitions = false) (hlater : ∀ d ∈ later, first ≤ d.first) :
    (a.withPending (held ++ later)).step ⟨e, first, last⟩ =
      (a.step ⟨e, first, last⟩).withPending (held ++ later) := by
  rw [step_of_pending_nil ha he, ← handle_withPending a _ last he]
  cases e with
  | stop => exact absurd rfl he
  | _ => simp only [step, flush_waiting hheld hlater]

theorem step_stop_waiting (ha : a.pending = []) {first last : Nat}
    (hheld : held = [] ∨ a.closeNodes.acceptsDefinitions = false)
    (hlater : ∀ d ∈ later, last ≤ d.first) :
    (a.withPending (held ++ later)).step ⟨.stop, first, last⟩ =
      (a.step ⟨.stop, first, last⟩).withPending (held ++ later) := by
  rw [step_stop_of_pending_nil ha, ← pop_withPending, ← flush_waiting hheld hlater]
  rfl

end

end Assembly

end MarkdownTree
