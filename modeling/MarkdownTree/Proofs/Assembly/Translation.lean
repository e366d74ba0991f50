import MarkdownTree.Proofs.Assembly.Forest
import MarkdownTree.Proofs.Tree.Zipper

/-!
# Assembling a forest

The assembly reads a flat stream with two stacks: the open containers of the builder and the frames
of the open tags. Between two events of a forest both are known from the place in the forest.

* `Content` — the inside of an open container: the trees that are complete, and the run of inline
  trees in a wrapping paragraph that is still open.
* `Assembly.inside` — the state of an assembly inside a container.
* `Content.feed` — what a piece does to the inside of a container.
* `foldl_step_events` — the events of a tree do to the state what its pieces do to the inside.
* `assemble_eventsAll` — so a whole forest becomes the tree that it stands for.
-/

namespace MarkdownTree

@[simp] theorem Definition.sorted_nil : Definition.sorted [] = [] := by
  rw [sorted, List.reverse_nil, List.mergeSort_nil]

@[simp] theorem Definition.sorted_singleton (d : Definition) : Definition.sorted [d] = [d] := by
  rw [sorted, List.reverse_singleton, List.mergeSort_singleton]

/-- The inside of an open container. The trees of `run` are in a wrapping paragraph; there is none
if they are none. -/
structure Content where
  done : List Tree
  run : List Tree
deriving Repr, Inhabited

namespace Content

/-- The inside of a container that was just opened. -/
def new : Content := ⟨[], []⟩

/-- The trees inside, with the wrapping paragraph closed. -/
def trees (c : Content) : List Tree :=
  c.done ++ Piece.wrap c.run

/-- Adds a piece to the inside of a container that takes inline content or does not. -/
def feed (takesInline : Bool) (c : Content) : Piece → Content
  | .inline t => if takesInline then ⟨c.done ++ [t], c.run⟩ else ⟨c.done, c.run ++ [t]⟩
  | .block t => ⟨c.trees ++ [t], []⟩
  | .cut => ⟨c.trees, []⟩

@[simp] theorem trees_of_run_nil (done : List Tree) : trees ⟨done, []⟩ = done := by
  simp [trees, Piece.wrap]

/-- No paragraph is open inside a container that takes inline content. -/
theorem run_feed {c : Content} (h : c.run = []) (p : Piece) : (c.feed true p).run = [] := by
  cases p <;> simp [feed, h]

theorem run_foldl_feed (ps : List Piece) : ∀ {c : Content}, c.run = [] →
    (ps.foldl (feed true) c).run = [] := by
  induction ps with
  | nil => exact id
  | cons p ps ih => exact fun h => ih (run_feed h p)

/-- Feeding wraps the maximal runs of inline pieces. -/
theorem trees_foldl_feed_false : ∀ (ps : List Piece) (c : Content),
    (ps.foldl (feed false) c).trees = c.done ++ Piece.wrapRuns c.run ps
  | [], c => rfl
  | .inline t :: ps, c => by
    rw [List.foldl_cons, trees_foldl_feed_false ps]
    rfl
  | .block t :: ps, c => by
    rw [List.foldl_cons, trees_foldl_feed_false ps]
    simp [feed, trees, Piece.wrapRuns]
  | .cut :: ps, c => by
    rw [List.foldl_cons, trees_foldl_feed_false ps]
    simp [feed, trees, Piece.wrapRuns]

theorem trees_foldl_feed_true : ∀ (ps : List Piece) {c : Content}, c.run = [] →
    (ps.foldl (feed true) c).trees = c.done ++ ps.filterMap Piece.tree?
  | [], ⟨done, run⟩, h => by
    cases h
    simp
  | p :: ps, c, h => by
    rw [List.foldl_cons, trees_foldl_feed_true ps (run_feed h p)]
    obtain ⟨done, run⟩ := c
    cases h
    cases p <;> simp [feed, Piece.tree?, List.filterMap_cons]

/-- **A container that is fed from the start is filled.** -/
theorem node_foldl_feed (kind : NodeKind) (ps : List Piece) :
    .node kind (ps.foldl (feed kind.acceptsInline) new).trees = Tree.fill kind ps := by
  rw [Tree.fill]
  cases h : kind.acceptsInline with
  | true => simp [trees_foldl_feed_true, new]
  | false => simp [trees_foldl_feed_false, new]

end Content

namespace Assembly

/-! ## The inside of a container -/

/-- An assembly with no definitions to insert. -/
def bare (z : Zipper) (frames : List Frame) : Assembly :=
  ⟨z.builder, frames, []⟩

/-- The container with an open paragraph below it. -/
def inParagraph (z : Zipper) (c : Content) : Zipper :=
  ((z.append c.done).openNode (.block (.paragraph false))).append c.run

/-- The assembly inside the current container of a zipper. -/
def inside (z : Zipper) (frames : List Frame) (c : Content) : Assembly :=
  match c.run with
  | [] => bare (z.append c.done) frames
  | _ :: _ => bare (inParagraph z c) (.implicit :: frames)

/-- Whether the innermost tag is none that collects text, and no paragraph is open in it. -/
def Settled : List Frame → Prop
  | [] | .explicit :: _ | .transparent :: _ => True
  | _ => False

theorem settled_explicit (frames : List Frame) : Settled (.explicit :: frames) := trivial

theorem settled_transparent (frames : List Frame) : Settled (.transparent :: frames) := trivial

@[simp] theorem inside_of_run_nil (z : Zipper) (frames : List Frame) (done : List Tree) :
    inside z frames ⟨done, []⟩ = bare (z.append done) frames := rfl

theorem inside_new (z : Zipper) (frames : List Frame) :
    inside z frames .new = bare z frames := by
  rw [Content.new, inside_of_run_nil, Zipper.append_nil]

theorem close_inParagraph (z : Zipper) (c : Content) (h : c.run ≠ []) :
    (inParagraph z c).close = z.append c.trees := by
  obtain ⟨done, run⟩ := c
  cases run with
  | nil => exact absurd rfl h
  | cons t ts => simp [inParagraph, Content.trees, Piece.wrap]

/-- **A block ends the wrapping paragraph.** -/
theorem closeImplicitParagraph_inside {z : Zipper} {frames : List Frame} {c : Content}
    (hs : Settled frames) :
    (inside z frames c).closeImplicitParagraph = bare (z.append c.trees) frames := by
  obtain ⟨done, run⟩ := c
  cases run with
  | nil =>
    rw [inside_of_run_nil, Content.trees_of_run_nil, closeImplicitParagraph]
    match frames, hs with
    | [], _ => rfl
    | .explicit :: _, _ => rfl
    | .transparent :: _, _ => rfl
  | cons t ts =>
    rw [← close_inParagraph z _ (by simp)]
    simp [inside, bare, closeImplicitParagraph, inParagraph, NodeKind.isParagraph]

/-- Inline content opens the wrapping paragraph, unless it is open already. -/
theorem ensureInlineContainer_inside {z : Zipper} {frames : List Frame} {c : Content}
    (h : z.layer.kind.acceptsInline = false) :
    (inside z frames c).ensureInlineContainer =
      bare (inParagraph z c) (.implicit :: frames) := by
  obtain ⟨done, run⟩ := c
  cases run with
  | nil => simp [inside_of_run_nil, bare, ensureInlineContainer, h, openImplicit, inParagraph]
  | cons t ts =>
    simp [inside, bare, ensureInlineContainer, inParagraph, NodeKind.acceptsInline]

theorem ensureInlineContainer_of_accepts {z : Zipper} {frames : List Frame}
    (h : z.layer.kind.acceptsInline = true) :
    (bare z frames).ensureInlineContainer = bare z frames := by
  simp [bare, ensureInlineContainer, h]

/-! ## Steps -/

theorem pending_inside (z : Zipper) (frames : List Frame) (c : Content) :
    (inside z frames c).pending = [] := by
  unfold inside
  split <;> rfl

/-- Without definitions there is nothing to insert. -/
theorem flush_of_pending_nil {a : Assembly} (h : a.pending = []) (position : Nat) :
    a.flush position = a := by
  unfold flush
  rw [h, insertBefore]
  obtain ⟨builder, frames, pending⟩ := a
  cases h
  split <;> rfl

theorem step_of_pending_nil {a : Assembly} (h : a.pending = []) {e : Event} (he : e ≠ .stop)
    (first last : Nat) : a.step ⟨e, first, last⟩ = a.handle last e := by
  cases e with
  | stop => exact absurd rfl he
  | _ => simp only [step, flush_of_pending_nil h]

/-- Closes the nodes without a tag that are innermost. -/
def closeNodes (a : Assembly) : Assembly :=
  let (builder, frames) := closeImplicits a.builder a.frames
  { a with builder, frames }

/-- Leaves the innermost tag. -/
def pop (a : Assembly) : Assembly :=
  match a.frames with
  | .explicit :: frames => { a with builder := a.builder.close, frames }
  | .literal kind text :: frames => { a with frames }.leaf (literalBlock kind text)
  | _ :: frames => { a with frames }
  | [] => a

/-- The end of a tag: definitions go in behind the nodes without a tag and before the end. -/
theorem stop_eq (a : Assembly) (position : Nat) :
    a.stop position = (a.closeNodes.flush position).pop := rfl

theorem step_stop_of_pending_nil {a : Assembly} (h : a.pending = []) (first last : Nat) :
    a.step ⟨.stop, first, last⟩ = a.closeNodes.pop := by
  have hpending : a.closeNodes.pending = [] := h
  rw [step, stop_eq, flush_of_pending_nil hpending]

theorem inlineLeaf_inside {z : Zipper} {frames : List Frame} {c : Content} (i : Inline)
    (hc : z.layer.kind.acceptsInline = true → c.run = []) :
    (inside z frames c).inlineLeaf i =
      inside z frames (c.feed z.layer.kind.acceptsInline (.inline (.node (.inline i) []))) := by
  obtain ⟨done, run⟩ := c
  cases h : z.layer.kind.acceptsInline with
  | true =>
    cases hc h
    rw [inside_of_run_nil, inlineLeaf, ensureInlineContainer_of_accepts (by simpa using h)]
    simp [bare, Content.feed]
  | false =>
    -- the leaf is the first of a run, or it goes on with one
    rw [inlineLeaf, ensureInlineContainer_inside h]
    cases run <;> simp [bare, inParagraph, Content.feed, inside]

/-- Text outside of literals and metadata is an inline leaf. -/
theorem collect_inside {z : Zipper} {frames : List Frame} {c : Content} (hs : Settled frames)
    (s : String) (i : Inline) :
    (inside z frames c).collect s i = (inside z frames c).inlineLeaf i := by
  obtain ⟨done, run⟩ := c
  match run, frames, hs with
  | _ :: _, _, _ => rfl
  | [], [], _ => rfl
  | [], .explicit :: _, _ => rfl
  | [], .transparent :: _, _ => rfl

theorem handle_text_inside {z : Zipper} {frames : List Frame} {c : Content} (hs : Settled frames)
    (s : String) (position : Nat) :
    (inside z frames c).handle position (.text s) = (inside z frames c).inlineLeaf (.text s) := by
  rw [← collect_inside hs s]
  obtain ⟨done, run⟩ := c
  match run, frames, hs with
  | _ :: _, _, _ => rfl
  | [], [], _ => rfl
  | [], .explicit :: _, _ => rfl
  | [], .transparent :: _, _ => rfl

/-- **A leaf event adds its pieces.** -/
theorem step_leaf {z : Zipper} {frames : List Frame} {c : Content} {e : Event}
    (he : e.isLeaf = true) (hs : Settled frames)
    (hc : z.layer.kind.acceptsInline = true → c.run = []) (first last : Nat) :
    (inside z frames c).step ⟨e, first, last⟩ =
      inside z frames (e.pieces.foldl (Content.feed z.layer.kind.acceptsInline) c) := by
  have hstop : e ≠ .stop := by
    rintro rfl
    simp [Event.isLeaf] at he
  rw [step_of_pending_nil (pending_inside z frames c) hstop]
  cases e with
  | start tag => simp [Event.isLeaf] at he
  | stop => exact absurd rfl hstop
  | rule =>
    rw [handle, closeImplicitParagraph_inside hs]
    simp [leaf, bare, Event.pieces, Content.feed, inside]
  | text s => rw [handle_text_inside hs, inlineLeaf_inside _ hc]; rfl
  | html s => rw [handle, collect_inside hs, inlineLeaf_inside _ hc]; rfl
  | softBreak => rw [handle, collect_inside hs, inlineLeaf_inside _ hc]; rfl
  | _ => rw [handle, inlineLeaf_inside _ hc]; rfl

theorem openBlock_inside {z : Zipper} {frames : List Frame} {c : Content} (hs : Settled frames)
    (b : Block) :
    (inside z frames c).openBlock b =
      inside ((z.append c.trees).openNode (.block b)) (.explicit :: frames) .new := by
  rw [inside_new, openBlock, closeImplicitParagraph_inside hs]
  simp [bare]

theorem openFrame_inside {z : Zipper} {frames : List Frame} {c : Content} (hs : Settled frames)
    (f : Frame) :
    (inside z frames c).openFrame f = bare (z.append c.trees) (f :: frames) := by
  rw [openFrame, closeImplicitParagraph_inside hs]
  rfl

/-- The end of a tag closes the paragraph and the container of the tag. -/
theorem step_stop_explicit (z : Zipper) (frames : List Frame) (c : Content) (first last : Nat) :
    (inside z (.explicit :: frames) c).step ⟨.stop, first, last⟩ =
      bare (z.append c.trees).close frames := by
  rw [step_stop_of_pending_nil (pending_inside ..)]
  obtain ⟨done, run⟩ := c
  cases run with
  | nil => simp [inside, bare, closeNodes, closeImplicits, pop]
  | cons t ts =>
    rw [← close_inParagraph z _ (by simp)]
    simp [inside, bare, closeNodes, closeImplicits, pop]

/-- The end of a tag without a node closes the paragraph only. -/
theorem step_stop_transparent (z : Zipper) (frames : List Frame) (c : Content)
    (first last : Nat) :
    (inside z (.transparent :: frames) c).step ⟨.stop, first, last⟩ =
      bare (z.append c.trees) frames := by
  rw [step_stop_of_pending_nil (pending_inside ..)]
  obtain ⟨done, run⟩ := c
  cases run with
  | nil => simp [inside, bare, closeNodes, closeImplicits, pop]
  | cons t ts =>
    rw [← close_inParagraph z _ (by simp)]
    simp [inside, bare, closeNodes, closeImplicits, pop]

/-- What the start of a tag does depends on the role of the tag only. -/
theorem start_eq (a : Assembly) (tag : Tag) :
    a.start tag = match tag.role with
      | .block b => a.openBlock b
      | .inline i => a.openInline i
      | .literal kind => a.openFrame (.literal kind "")
      | .transparent => a.openFrame .transparent
      | .table alignments => a.openBlock (.tableRoot alignments)
      | .head => (a.openBlock .tableHeader).openImplicit .tableRow
      | .row =>
        match a.builder.currentKind with
        | .block (.tableRoot _) => (a.openImplicit .tableBody).openBlock .tableRow
        | _ => a.openBlock .tableRow
      | .cell => a.openBlock .tableCell
      | .metadata => { a with frames := .metadata :: a.frames } := by
  cases tag with
  | list start => cases start <;> rfl
  | _ => rfl

theorem step_start {a : Assembly} (h : a.pending = []) (tag : Tag) (first last : Nat) :
    a.step ⟨.start tag, first, last⟩ = a.start tag :=
  step_of_pending_nil h (by simp) first last

/-! ## Literals and metadata -/

section

variable (b : Builder) (frames : List Frame) (pending : List Definition)

theorem step_literal {e : Event} {s : String} (h : e.literal? = some s) (kind : LiteralKind)
    (text : String) (first last : Nat) :
    step ⟨b, .literal kind text :: frames, pending⟩ ⟨e, first, last⟩ =
      ⟨b, .literal kind (text ++ s) :: frames, pending⟩ := by
  cases e with
  | text s' => cases h; rfl
  | html s' => cases h; rfl
  | softBreak => cases h; rfl
  | _ => cases h

/-- The text of a code or HTML block is collected in order. -/
theorem foldl_step_literal (kind : LiteralKind) :
    ∀ (content : List EventTree) (text : String),
      content.all (fun t => t.literal?.isSome) = true →
      (EventTree.eventsAll content).foldl step ⟨b, .literal kind text :: frames, pending⟩ =
        ⟨b, .literal kind (text ++ EventTree.literalText content) :: frames, pending⟩
  | [], text, _ => by simp [EventTree.eventsAll, EventTree.literalText]
  | .element .. :: _, _, h => by simp [EventTree.literal?] at h
  | .leaf e range :: content, text, h => by
    rw [List.all_cons, Bool.and_eq_true, EventTree.literal?] at h
    obtain ⟨s, hs⟩ := Option.isSome_iff_exists.mp h.1
    have ih := foldl_step_literal kind content (text ++ s) h.2
    rw [EventTree.eventsAll, EventTree.events, List.singleton_append, List.foldl_cons,
      step_literal b frames pending hs, ih]
    simp [EventTree.literalText, EventTree.literal?, hs, String.append_assoc]

/-- The text of metadata is dropped. -/
theorem foldl_step_metadata :
    ∀ content : List EventTree, content.all EventTree.isText = true →
      (EventTree.eventsAll content).foldl step ⟨b, .metadata :: frames, pending⟩ =
        ⟨b, .metadata :: frames, pending⟩
  | [], _ => rfl
  | .element .. :: _, h => by simp [EventTree.isText] at h
  | .leaf e range :: content, h => by
    rw [List.all_cons, Bool.and_eq_true] at h
    cases e with
    | text s =>
      rw [EventTree.eventsAll, EventTree.events, List.singleton_append, List.foldl_cons]
      exact foldl_step_metadata content h.2
    | _ => simp [EventTree.isText] at h

end

/-! ## Tags with content -/

/-- The end of a tag closes the container that its content was fed to. -/
theorem step_stop_filled (z : Zipper) (kind : NodeKind) (frames : List Frame) (ps : List Piece)
    (first last : Nat) :
    (inside (z.openNode kind) (.explicit :: frames)
        (ps.foldl (Content.feed kind.acceptsInline) .new)).step ⟨.stop, first, last⟩ =
      bare (z.append [.fill kind ps]) frames := by
  rw [step_stop_explicit, Zipper.close_append_openNode, Content.node_foldl_feed]

theorem openInline_inside {z : Zipper} (frames : List Frame) {c : Content} (i : Inline)
    (hc : z.layer.kind.acceptsInline = true → c.run = []) :
    ∃ (z' : Zipper) (frames' : List Frame),
      (inside z frames c).openInline i =
        inside (z'.openNode (.inline i)) (.explicit :: frames') .new ∧
      ∀ t, bare (z'.append [t]) frames' =
        inside z frames (c.feed z.layer.kind.acceptsInline (.inline t)) := by
  obtain ⟨done, run⟩ := c
  cases h : z.layer.kind.acceptsInline with
  | true =>
    cases hc h
    refine ⟨z.append done, frames, ?_, fun t => by simp [Content.feed]⟩
    rw [inside_of_run_nil, openInline, ensureInlineContainer_of_accepts (by simpa using h),
      inside_new]
    simp [bare]
  | false =>
    refine ⟨inParagraph z ⟨done, run⟩, .implicit :: frames, ?_, fun t => ?_⟩
    · rw [openInline, ensureInlineContainer_inside h, inside_new]
      simp [bare]
    · cases run <;> simp [inside, inParagraph, Content.feed]

/-- The end of a tag whose content is complete. -/
theorem step_stop_node (z : Zipper) (kind : NodeKind) (ts : List Tree) (frames : List Frame)
    (first last : Nat) :
    (bare ((z.openNode kind).append ts) (.explicit :: frames)).step ⟨.stop, first, last⟩ =
      bare (z.append [.node kind ts]) frames := by
  rw [← inside_of_run_nil, step_stop_explicit, Content.trees_of_run_nil,
    Zipper.close_append_openNode]

/-- The end of a table or its head closes the body or the row that was opened along with it. -/
theorem step_stop_nodes (z : Zipper) (kind kind' : NodeKind) (ts us : List Tree)
    (frames : List Frame) (first last : Nat) :
    (bare ((((z.openNode kind).append ts).openNode kind').append us)
        (.implicit :: .explicit :: frames)).step ⟨.stop, first, last⟩ =
      bare (z.append [.node kind (ts ++ [.node kind' us])]) frames := by
  rw [← step_stop_node z kind _ frames first last, ← Zipper.append_append,
    ← Zipper.close_append_openNode, step_stop_of_pending_nil rfl, step_stop_of_pending_nil rfl]
  simp [bare, closeNodes, closeImplicits, pop]

theorem openImplicit_bare (z : Zipper) (frames : List Frame) (b : Block) :
    (bare z frames).openImplicit b = bare (z.openNode (.block b)) (.implicit :: frames) := by
  simp [openImplicit, bare]

/-- The container of a table part holds no inline content, so that nothing implicit is open in it
that a part would close. -/
theorem openBlock_bare {z : Zipper} (h : z.layer.kind.isParagraph = false) (frames : List Frame)
    (b : Block) :
    (bare z frames).openBlock b = bare (z.openNode (.block b)) (.explicit :: frames) := by
  have hclose : (bare z frames).closeImplicitParagraph = bare z frames := by
    unfold closeImplicitParagraph
    split
    · simp [bare, h]
    · rfl
  rw [openBlock, hclose]
  simp [bare]

/-- Whether the events of some cells append these cells to the container around them. -/
def AppendsCells (cells : List EventTree) : Prop :=
  ∀ (z : Zipper) (frames : List Frame), z.layer.kind.isParagraph = false →
    (EventTree.eventsAll cells).foldl step (bare z frames) =
      bare (z.append (Piece.wrapRuns [] (EventTree.piecesAll cells))) frames

/-- A head is one header with one row. -/
theorem foldl_step_head {cells : List EventTree} (hcells : AppendsCells cells) {z : Zipper}
    (hz : z.layer.kind.isParagraph = false) (frames : List Frame)
    (opening closing : SourceRange) :
    (EventTree.element .tableHead opening closing cells).events.foldl step (bare z frames) =
      bare (z.append [.node (.block .tableHeader)
        [.fill (.block .tableRow) (EventTree.piecesAll cells)]]) frames := by
  rw [EventTree.events, List.foldl_cons, List.foldl_append, step_start rfl, start_eq]
  simp only [Tag.role]
  rw [openBlock_bare hz, openImplicit_bare, hcells _ _ rfl, List.foldl_cons, List.foldl_nil]
  have hstop := step_stop_nodes z (.block .tableHeader) (.block .tableRow) []
    (Piece.wrapRuns [] (EventTree.piecesAll cells)) frames closing.first closing.last
  rw [Zipper.append_nil] at hstop
  exact hstop

/-- A row that was opened in a body is one row. -/
theorem foldl_step_row {cells : List EventTree} (hcells : AppendsCells cells) (z : Zipper)
    (frames : List Frame) (closing : SourceRange) :
    (EventTree.eventsAll cells ++ [(⟨.stop, closing.first, closing.last⟩ : Located)]).foldl step
        (bare (z.openNode (.block .tableRow)) (.explicit :: frames)) =
      bare (z.append [.fill (.block .tableRow) (EventTree.piecesAll cells)]) frames := by
  rw [List.foldl_append, hcells _ _ rfl, List.foldl_cons, List.foldl_nil, step_stop_node]
  rfl

-- By recursion on the forest. A tag leaves the frames and the container as it found them, so the
-- state behind it is again the state inside that container.
mutual

/-- **The events of a tree do to the state what its pieces do to the inside of the container.** -/
theorem foldl_step_events :
    ∀ (t : EventTree), t.wellNested = true →
      ∀ {z : Zipper} {frames : List Frame} {c : Content}, Settled frames →
      (z.layer.kind.acceptsInline = true → c.run = []) →
      t.events.foldl step (inside z frames c) =
        inside z frames (t.pieces.foldl (Content.feed z.layer.kind.acceptsInline) c)
  | .leaf e range, h, z, frames, c, hs, hc => step_leaf h hs hc range.first range.last
  | .element tag opening closing content, h, z, frames, c, hs, hc => by
    rw [EventTree.events, List.foldl_cons, List.foldl_append, step_start (pending_inside ..),
      start_eq, EventTree.pieces]
    rw [EventTree.wellNested] at h
    cases hr : tag.role with
    | block b =>
      -- the content is fed to a container of its own
      simp only [hr] at h ⊢
      rw [openBlock_inside hs, foldl_step_eventsAll content h (settled_explicit _) (fun _ => rfl)]
      simp only [List.foldl_cons, List.foldl_nil, Zipper.layer_openNode_kind, step_stop_filled,
        Zipper.append_append]
      rfl
    | inline i =>
      -- the same, and the paragraph around the tag stays open
      simp only [hr] at h ⊢
      obtain ⟨z', frames', hopen, hclose⟩ := openInline_inside frames i hc
      rw [hopen, foldl_step_eventsAll content h (settled_explicit _) (fun _ => rfl)]
      simp only [List.foldl_cons, List.foldl_nil, Zipper.layer_openNode_kind, step_stop_filled,
        hclose]
    | literal kind =>
      -- the content goes into the frame, and the node comes with the end of the tag
      simp only [hr] at h ⊢
      rw [openFrame_inside hs, bare, foldl_step_literal _ _ _ _ content "" h, List.foldl_cons,
        List.foldl_nil, step_stop_of_pending_nil rfl]
      simp [bare, closeNodes, closeImplicits, pop, leaf, Content.feed, inside]
    | transparent =>
      -- the content is fed to the container around the tag
      simp only [hr] at h ⊢
      rw [openFrame_inside hs, ← inside_of_run_nil,
        foldl_step_eventsAll content h (settled_transparent _) (fun _ => rfl)]
      simp only [List.foldl_cons, List.foldl_nil, List.foldl_append, step_stop_transparent]
      rfl
    | table alignments =>
      simp only [hr] at h ⊢
      rw [openBlock_inside hs, inside_new, ← List.foldl_append,
        foldl_step_table content h, Zipper.append_append]
      rfl
    | head => simp [hr] at h
    | row => simp [hr] at h
    | cell => simp [hr] at h
    | metadata =>
      -- the paragraph around the tag is open behind it if it was before
      simp only [hr] at h ⊢
      obtain ⟨z', frames', hbare⟩ : ∃ z' frames', inside z frames c = bare z' frames' := by
        unfold inside
        split <;> exact ⟨_, _, rfl⟩
      have hcontent := foldl_step_metadata z'.builder frames' [] content h
      rw [hbare, List.foldl_nil, hbare, bare, hcontent]
      rfl

theorem foldl_step_eventsAll :
    ∀ (ts : List EventTree), EventTree.wellNestedAll ts = true →
      ∀ {z : Zipper} {frames : List Frame} {c : Content}, Settled frames →
      (z.layer.kind.acceptsInline = true → c.run = []) →
      (EventTree.eventsAll ts).foldl step (inside z frames c) =
        inside z frames
          ((EventTree.piecesAll ts).foldl (Content.feed z.layer.kind.acceptsInline) c)
  | [], _, _, _, _, _, _ => rfl
  | t :: ts, h, z, frames, c, hs, hc => by
    rw [EventTree.wellNestedAll, Bool.and_eq_true] at h
    rw [EventTree.eventsAll, EventTree.piecesAll, List.foldl_append, List.foldl_append,
      foldl_step_events t h.1 hs hc, foldl_step_eventsAll ts h.2 hs]
    intro haccepts
    rw [haccepts]
    exact Content.run_foldl_feed _ (hc haccepts)

theorem foldl_step_cells :
    ∀ (cells : List EventTree), EventTree.cellsNested cells = true → AppendsCells cells
  | [], _, z, frames, _ => by simp [EventTree.eventsAll, EventTree.piecesAll, Piece.wrapRuns,
      Piece.wrap]
  | .element .tableCell opening closing content :: cells, h, z, frames, hz => by
    rw [EventTree.cellsNested, Bool.and_eq_true] at h
    rw [EventTree.eventsAll, EventTree.events, List.foldl_append, List.foldl_cons,
      List.foldl_append, step_start rfl, start_eq]
    simp only [Tag.role, openBlock_bare hz]
    rw [← inside_new, foldl_step_eventsAll content h.1 (settled_explicit _) (fun _ => rfl)]
    simp only [List.foldl_cons, List.foldl_nil, Zipper.layer_openNode_kind, step_stop_filled]
    rw [foldl_step_cells cells h.2 _ _ (by simpa using hz)]
    simp [EventTree.piecesAll, EventTree.pieces, Tag.role, Piece.wrapRuns, Piece.wrap]

/-- The rows behind the first one are placed into the body that is open already. -/
theorem foldl_step_rows :
    ∀ (rows : List EventTree), EventTree.rowsNested rows = true →
      ∀ {z : Zipper} {frames : List Frame}, z.layer.kind = .block .tableBody →
      (EventTree.eventsAll rows).foldl step (bare z frames) =
        bare (z.append ((EventTree.piecesAll rows).filterMap Piece.tree?)) frames
  | [], _, z, frames, _ => by simp [EventTree.eventsAll, EventTree.piecesAll]
  | .element .tableRow opening closing cells :: rows, h, z, frames, hz => by
    rw [EventTree.rowsNested, Bool.and_eq_true] at h
    have hpar : z.layer.kind.isParagraph = false := by rw [hz]; rfl
    have hkind : (bare z frames).builder.currentKind = .block .tableBody := by simp [bare, hz]
    rw [EventTree.eventsAll, EventTree.events, List.foldl_append, List.foldl_cons,
      step_start rfl, start_eq]
    simp only [Tag.role, hkind, openBlock_bare hpar]
    rw [foldl_step_row (foldl_step_cells cells h.1), foldl_step_rows rows h.2 (by simpa using hz)]
    simp [EventTree.piecesAll, EventTree.pieces, Tag.role, Piece.tree?]

/-- The first row opens the body, and the end of the table closes it. -/
theorem foldl_step_table :
    ∀ (content : List EventTree), EventTree.tableNested content = true →
      ∀ {z : Zipper} {frames : List Frame} {alignments : List Alignment} {first last : Nat},
      (EventTree.eventsAll content ++ [(⟨.stop, first, last⟩ : Located)]).foldl step
          (bare (z.openNode (.block (.tableRoot alignments))) (.explicit :: frames)) =
        bare (z.append [.node (.block (.tableRoot alignments))
          (Tree.tableParts ((EventTree.piecesAll content).filterMap Piece.tree?))]) frames
  | .element .tableHead opening closing cells :: rows, h, z, frames, alignments, first, last => by
    rw [EventTree.tableNested, Bool.and_eq_true] at h
    rw [EventTree.eventsAll, List.append_assoc, List.foldl_append,
      foldl_step_head (foldl_step_cells cells h.1) (by rfl)]
    match rows, h.2 with
    | [], _ =>
      -- no row, no body
      rw [EventTree.eventsAll, List.nil_append, List.foldl_cons, List.foldl_nil, step_stop_node]
      simp [EventTree.piecesAll, EventTree.pieces, Tag.role, Piece.tree?, Tree.tableParts]
    | .element .tableRow opening' closing' row :: rows, hrows =>
      rw [EventTree.rowsNested, Bool.and_eq_true] at hrows
      rw [EventTree.eventsAll, EventTree.events, List.append_assoc, List.foldl_append,
        List.foldl_cons, step_start rfl, start_eq]
      have hkind : ∀ ts frames, (bare ((z.openNode (.block (.tableRoot alignments))).append ts)
          frames).builder.currentKind = .block (.tableRoot alignments) := by
        simp [bare]
      simp only [Tag.role, hkind]
      -- the root is current, so the first row opens the body; the others find it open
      rw [openImplicit_bare, openBlock_bare (by rfl), foldl_step_row (foldl_step_cells row hrows.1),
        List.foldl_append, foldl_step_rows rows hrows.2 (by rfl), List.foldl_cons, List.foldl_nil,
        Zipper.append_append, step_stop_nodes]
      simp [EventTree.piecesAll, EventTree.pieces, Tag.role, Piece.tree?, Tree.tableParts]

end

/-! ## Whole forests -/

theorem begin_nil : begin [] = bare .new [] := by
  rw [begin, bare, Definition.sorted_nil, Zipper.builder_new]

/-- The document inside the root, with the wrapping paragraph closed or not. -/
theorem document_inside_new (frames : List Frame) (c : Content) :
    (inside .new frames c).builder.document =
      (Tree.node (.block .document) c.trees).document := by
  have htree : ∀ ts, (Zipper.new.append ts).tree = .node (.block .document) ts := fun _ => rfl
  obtain ⟨done, run⟩ := c
  cases run with
  | nil => simp [bare, htree]
  | cons t ts =>
    have hclose := close_inParagraph .new ⟨done, t :: ts⟩ (by simp)
    simp only [inside, bare, Zipper.document_builder]
    rw [← Zipper.tree_close, hclose, htree]

/-- The assembly of a forest, before definitions that are left would be inserted. -/
theorem document_foldl_step {forest : List EventTree}
    (h : EventTree.wellNestedAll forest = true) :
    ((EventTree.eventsAll forest).foldl step (begin [])).builder.document =
      (EventTree.translate forest).document := by
  rw [begin_nil, ← inside_new, foldl_step_eventsAll forest h (by trivial) (fun _ => rfl),
    document_inside_new]
  exact congrArg Tree.document (Content.node_foldl_feed (.block .document) _)

theorem pending_foldl_step {forest : List EventTree}
    (h : EventTree.wellNestedAll forest = true) :
    ((EventTree.eventsAll forest).foldl step (begin [])).pending = [] := by
  rw [begin_nil, ← inside_new, foldl_step_eventsAll forest h (by trivial) (fun _ => rfl)]
  exact pending_inside ..

end Assembly

/-- The document of a forest, its array included. -/
theorem Document.assemble_eventsAll {forest : List EventTree}
    (h : EventTree.wellNestedAll forest = true) :
    Document.assemble (EventTree.eventsAll forest) [] false =
      (EventTree.translate forest).document := by
  have hflush := Assembly.flush_of_pending_nil (Assembly.pending_foldl_step h)
    Assembly.endOfSource
  have hassemble : Document.assemble (EventTree.eventsAll forest) [] false =
      (((EventTree.eventsAll forest).foldl Assembly.step (.begin [])).flush
        Assembly.endOfSource).builder.document := rfl
  rw [hassemble, hflush, Assembly.document_foldl_step h]

/-- **The assembly of a forest of events is the tree that the forest stands for.** The document is
the one with that tree, down to the numbering and the links of its nodes, and the tree is what one
reads along the chains of siblings. -/
theorem assemble_wellNested (forest : List EventTree)
    (h : EventTree.wellNestedAll forest = true) :
    Document.assemble (EventTree.eventsAll forest) [] false =
        (EventTree.translate forest).document ∧
      (Document.assemble (EventTree.eventsAll forest) [] false).tree =
        EventTree.translate forest := by
  have hdoc := Document.assemble_eventsAll h
  exact ⟨hdoc, by rw [hdoc, Tree.tree_document]⟩

/-- A tight list item with a run that metadata does not end and a rule does, and a code block. -/
theorem assemble_wellNested_tight_item :
    let at0 : SourceRange := ⟨0, 0⟩
    let forest : List EventTree :=
      [.element (.list none) at0 at0
        [.element .item at0 at0
          [.leaf (.text "a") at0, .element .metadata at0 at0 [.leaf (.text "m") at0],
            .element .emphasis at0 at0 [.leaf (.code "b") at0], .leaf .rule at0,
            .element .definitionList at0 at0 [.leaf .hardBreak at0]]],
        .element (.literal .html) at0 at0 [.leaf (.html "<p>") at0, .leaf .softBreak at0]]
    EventTree.wellNestedAll forest = true ∧
      (Document.assemble (EventTree.eventsAll forest) [] false).tree =
        .node (.block .document)
          [.node (.block .unorderedList)
            [.node (.block .listItem)
              [.node (.block (.paragraph false))
                [.node (.inline (.text "a")) [],
                  .node (.inline .emphasis) [.node (.inline (.code "b")) []]],
                .node (.block .thematicBreak) [],
                .node (.block (.paragraph false)) [.node (.inline .hardBreak) []]]],
            .node (.block (.htmlBlock "<p>\n")) []] := by
  refine ⟨rfl, (assemble_wellNested _ rfl).2.trans ?_⟩
  simp [EventTree.translate, Tree.fill, EventTree.pieces, EventTree.piecesAll, Tag.role,
    Event.pieces, Event.inline?, NodeKind.acceptsInline, Inline.isContainer, Piece.wrapRuns,
    Piece.wrap, Piece.tree?, EventTree.literalText, EventTree.literal?, Event.literal?,
    Assembly.literalBlock]

end MarkdownTree
