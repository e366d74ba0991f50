import Mathlib.Data.List.Induction
import MarkdownTree.Proofs.Assembly.Moves

/-!
# Frames and open containers

An assembly keeps two stacks. The builder has the containers that are open below the root, and the
assembly has a frame for each open tag and for each node that was opened without a tag. Some frames
have no container, and definitions are appended without a frame. The two are kept apart in many
places, and yet they stay aligned, whatever the events are.

* `Assembly.Draft.Aligned` — the containers are those of the frames that have one, in order. Every
  move keeps this.
* `Builder.close?`, `Assembly.step?` — an assembly that fails as soon as the root is to be closed.
* `Assembly.step?_eq_some` — with enough containers for the frames it does not fail.
* `Assembly.stop_of_frames`, `Assembly.stop_of_implicits` — what the end of a tag takes from the two
  stacks.
* `frames_aligned` — the two stacks after any events.
-/

namespace MarkdownTree

/-! ## Containers of frames -/

namespace Zipper

/-- The kinds of the open containers below the root, innermost first. -/
def innerKinds : Layer → List Layer → List NodeKind
  | _, [] => []
  | l, o :: outer => l.kind :: innerKinds o outer

theorem innerKinds_append (l : Layer) (ts : List Tree) (outer : List Layer) :
    innerKinds (l.append ts) outer = innerKinds l outer := by
  cases outer <;> rfl

/-- The path of a builder leads through these containers. -/
theorem map_kind_path (l : Layer) (outer : List Layer) :
    (builder ⟨l, outer⟩).path.map (builder ⟨l, outer⟩).document.kind = innerKinds l outer := by
  induction outer generalizing l with
  | nil => rfl
  | cons o outer ih =>
    have hcurrent : (builder ⟨l, o :: outer⟩).document.kind (offset (o :: outer)) = l.kind := by
      have hkind := currentKind_builder ⟨l, o :: outer⟩
      rwa [Builder.currentKind, current_builder] at hkind
    have hrest := ih (o.append [l.close])
    rw [innerKinds_append] at hrest
    show List.map _ (offset (o :: outer) :: path outer) = _
    rw [List.map_cons, hcurrent, document_close]
    exact congrArg (l.kind :: ·) hrest

end Zipper

namespace Assembly

namespace Draft

/-- The open containers below the root are those of the frames that have one, in order. -/
def Aligned (d : Draft) : Prop :=
  List.Forall₂ (fun k f => f.opens k = true) (Zipper.innerKinds d.zipper.layer d.zipper.outer)
    (d.frames.filter Frame.hasNode)

theorem Aligned.begin (definitions : List Definition) : Aligned ⟨.new, [], definitions⟩ :=
  .nil

/-- **Every move keeps containers and frames aligned.** -/
theorem Aligned.move {d d' : Draft} (h : d.Aligned) (hmove : Move d d') : d'.Aligned := by
  cases hmove with
  | @leaf z frames pending k _ _ =>
    show List.Forall₂ _ (Zipper.innerKinds (z.layer.append _) z.outer) _
    rw [Zipper.innerKinds_append]
    exact h
  | @enter z frames pending f k hf _ =>
    show List.Forall₂ _ (k :: Zipper.innerKinds z.layer z.outer) ((f :: frames).filter _)
    rw [List.filter_cons_of_pos (Frame.hasNode_of_opens hf)]
    exact .cons hf h
  | @leave z frames pending f hf =>
    obtain ⟨l, outer⟩ := z
    unfold Aligned at h
    rw [List.filter_cons_of_pos hf] at h
    cases outer with
    | nil => cases h
    | cons o outer =>
      cases h with
      | cons _ h =>
        show List.Forall₂ _ (Zipper.innerKinds (o.append _) outer) _
        rw [Zipper.innerKinds_append]
        exact h
  | push hf =>
    unfold Aligned
    rw [List.filter_cons_of_neg (by simp [hf])]
    exact h
  | drop hf =>
    unfold Aligned at h
    rw [List.filter_cons_of_neg (by simp [hf])] at h
    exact h
  | @insert z frames pending d _ =>
    show List.Forall₂ _ (Zipper.innerKinds (z.layer.append _) z.outer) _
    rw [Zipper.innerKinds_append]
    exact h

theorem Aligned.moves {d d' : Draft} (h : d.Aligned) (hmoves : Relation.ReflTransGen Move d d') :
    d'.Aligned :=
  of_moves (fun _ _ h hmove => h.move hmove) h hmoves

end Draft

/-- The containers of an assembly, as the builder has them, are those of its frames. -/
def Aligned (a : Assembly) : Prop :=
  List.Forall₂ (fun id f => f.opens (a.builder.document.kind id) = true) a.builder.path
    (a.frames.filter Frame.hasNode)

theorem Draft.Aligned.assembly {d : Draft} (h : d.Aligned) : d.assembly.Aligned := by
  obtain ⟨⟨l, outer⟩, frames, pending⟩ := d
  unfold Draft.Aligned at h
  rw [← Zipper.map_kind_path, List.forall₂_map_left_iff] at h
  exact h

/-- **After any events, containers and frames are aligned.** -/
theorem aligned_foldl_step (events : List Located) (definitions : List Definition) :
    (events.foldl step (.begin definitions)).Aligned := by
  let start : Draft := ⟨.new, [], Definition.sorted definitions⟩
  have hstart : start.Aligned := .begin _
  obtain ⟨d, hd, hmoves⟩ := start.leads_foldl_step events
  show (events.foldl step start.assembly).Aligned
  rw [hd]
  exact (hstart.moves hmoves).assembly

/-- Whether there are enough containers for the frames. -/
def HasRoom (b : Builder) (frames : List Frame) : Prop :=
  frames.countP Frame.hasNode ≤ b.path.length

theorem Aligned.length_eq {a : Assembly} (h : a.Aligned) :
    a.builder.path.length = a.frames.countP Frame.hasNode := by
  rw [List.countP_eq_length_filter]
  exact List.Forall₂.length_eq h

theorem Aligned.hasRoom {a : Assembly} (h : a.Aligned) : HasRoom a.builder a.frames :=
  Nat.le_of_eq h.length_eq.symm

end Assembly

/-! ## Closing below the root -/

/-- Returns to the parent of the current container. The root has none, and this fails there. -/
def Builder.close? (b : Builder) : Option Builder :=
  if b.path.isEmpty then none else some b.close

namespace Assembly

/-- Closes a wrapping paragraph, if one is innermost; fails where this is the root. -/
def closeImplicitParagraph? (a : Assembly) : Option Assembly :=
  match a.frames with
  | .implicit :: frames =>
    if a.builder.currentKind.isParagraph then
      a.builder.close?.map fun builder => { a with builder, frames }
    else some a
  | _ => some a

/-- Opens the node of a block tag, if a wrapping paragraph can be closed. -/
def openBlock? (a : Assembly) (b : Block) : Option Assembly :=
  a.closeImplicitParagraph?.map fun a =>
    { a with builder := a.builder.openNode (.block b), frames := .explicit :: a.frames }

/-- Opens a tag that has no node yet, if a wrapping paragraph can be closed. -/
def openFrame? (a : Assembly) (f : Frame) : Option Assembly :=
  a.closeImplicitParagraph?.map fun a => { a with frames := f :: a.frames }

/-- Opens a tag. Inline tags and front matter close nothing. -/
def start? (a : Assembly) (tag : Tag) : Option Assembly :=
  match tag.role with
  | .block b => a.openBlock? b
  | .literal kind => a.openFrame? (.literal kind "")
  | .transparent => a.openFrame? .transparent
  | .table alignments => a.openBlock? (.tableRoot alignments)
  | .head => (a.openBlock? .tableHeader).map (·.openImplicit .tableRow)
  | .row =>
    match a.builder.currentKind with
    | .block (.tableRoot _) => (a.openImplicit .tableBody).openBlock? .tableRow
    | _ => a.openBlock? .tableRow
  | .cell => a.openBlock? .tableCell
  | .inline _ | .metadata => some (a.start tag)

/-- Closes the nodes without a tag that are innermost, each of them below the root. -/
def closeImplicits? (b : Builder) : List Frame → Option (Builder × List Frame)
  | .implicit :: frames => b.close?.bind fun b => closeImplicits? b frames
  | frames => some (b, frames)

/-- Leaves the innermost tag; fails where its node is the root. -/
def pop? (a : Assembly) : Option Assembly :=
  match a.frames with
  | .explicit :: frames => a.builder.close?.map fun builder => { a with builder, frames }
  | _ => some a.pop

/-- Closes the innermost tag. -/
def stop? (a : Assembly) (position : Nat) : Option Assembly :=
  (closeImplicits? a.builder a.frames).bind fun (builder, frames) =>
    (flush { a with builder, frames } position).pop?

/-- Takes in one event, and fails if the root is to be closed. Only block tags, rules and the ends
of tags close something. -/
def step? (a : Assembly) (e : Located) : Option Assembly :=
  match e.event with
  | .stop => a.stop? e.last
  | .start tag => (a.flush e.first).start? tag
  | .rule => (a.flush e.first).closeImplicitParagraph?.map (·.leaf .thematicBreak)
  | _ => some (a.step e)

/-! ## Enough containers -/

variable {a : Assembly} {b : Builder} {f : Frame} {frames : List Frame}

theorem HasRoom.ne_nil (h : HasRoom b (f :: frames)) (hf : f.hasNode = true) : b.path ≠ [] := by
  unfold HasRoom at h
  rw [List.countP_cons_of_pos hf] at h
  exact List.ne_nil_of_length_pos (by omega)

theorem HasRoom.close (h : HasRoom b (f :: frames)) (hf : f.hasNode = true) :
    HasRoom b.close frames := by
  unfold HasRoom at h ⊢
  rw [List.countP_cons_of_pos hf] at h
  show _ ≤ b.path.tail.length
  rw [List.length_tail]
  omega

theorem HasRoom.openImplicit (h : HasRoom a.builder a.frames) (block : Block) :
    HasRoom (a.openImplicit block).builder (a.openImplicit block).frames := by
  show List.countP _ (.implicit :: a.frames) ≤ a.builder.path.length + 1
  rw [List.countP_cons_of_pos rfl]
  exact Nat.succ_le_succ h

theorem close?_eq_some (h : HasRoom b (f :: frames)) (hf : f.hasNode = true) :
    b.close? = some b.close := by
  simp [Builder.close?, h.ne_nil hf]

theorem closeImplicitParagraph?_eq_some (h : HasRoom a.builder a.frames) :
    a.closeImplicitParagraph? = some a.closeImplicitParagraph := by
  obtain ⟨b, frames, pending⟩ := a
  cases frames with
  | nil => rfl
  | cons f frames =>
    cases f with
    | implicit =>
      have hclose : b.close? = some b.close := close?_eq_some h rfl
      by_cases hparagraph : b.currentKind.isParagraph = true
      · simp [closeImplicitParagraph?, closeImplicitParagraph, hparagraph, hclose]
      · simp [closeImplicitParagraph?, closeImplicitParagraph, hparagraph]
    | _ => rfl

theorem openBlock?_eq_some (h : HasRoom a.builder a.frames) (block : Block) :
    a.openBlock? block = some (a.openBlock block) := by
  rw [openBlock?, closeImplicitParagraph?_eq_some h]
  rfl

theorem openFrame?_eq_some (h : HasRoom a.builder a.frames) (f : Frame) :
    a.openFrame? f = some (a.openFrame f) := by
  rw [openFrame?, closeImplicitParagraph?_eq_some h]
  rfl

theorem start?_eq_some (h : HasRoom a.builder a.frames) (tag : Tag) :
    a.start? tag = some (a.start tag) := by
  rw [start?, start_eq]
  cases tag.role with
  | block block => exact openBlock?_eq_some h block
  | inline i => rfl
  | literal kind => exact openFrame?_eq_some h _
  | transparent => exact openFrame?_eq_some h _
  | table alignments => exact openBlock?_eq_some h _
  | head =>
    show (a.openBlock? .tableHeader).map _ = _
    rw [openBlock?_eq_some h]
    rfl
  | row =>
    dsimp only
    generalize a.builder.currentKind = kind
    cases kind with
    | inline i => exact openBlock?_eq_some h .tableRow
    | block block =>
      cases block with
      | tableRoot alignments => exact openBlock?_eq_some (h.openImplicit .tableBody) .tableRow
      | _ => exact openBlock?_eq_some h .tableRow
  | cell => exact openBlock?_eq_some h _
  | metadata => rfl

/-- The nodes without a tag are below the root, and what is left has enough containers again. -/
theorem closeImplicits?_eq_some : ∀ {frames : List Frame} {b : Builder}, HasRoom b frames →
    closeImplicits? b frames = some (closeImplicits b frames) ∧
      HasRoom (closeImplicits b frames).1 (closeImplicits b frames).2
  | [], b, h => ⟨rfl, h⟩
  | f :: frames, b, h => by
    cases f with
    | implicit =>
      have hrest := closeImplicits?_eq_some (h.close rfl)
      refine ⟨?_, hrest.2⟩
      rw [closeImplicits?, close?_eq_some h rfl]
      exact hrest.1
    | _ => exact ⟨rfl, h⟩

theorem pop?_eq_some (h : HasRoom a.builder a.frames) : a.pop? = some a.pop := by
  unfold pop?
  split
  · next frames hframes =>
    rw [hframes] at h
    rw [close?_eq_some h rfl, pop, hframes]
    rfl
  · rfl

theorem path_insertBefore (position : Nat) : ∀ (ds : List Definition) (b : Builder),
    (insertBefore position b ds).1.path = b.path
  | [], b => rfl
  | d :: ds, b => by
    rw [insertBefore]
    split
    · exact path_insertBefore position ds _
    · rfl

/-- Definitions have no frame and stay no containers. -/
theorem path_flush (a : Assembly) (position : Nat) :
    (a.flush position).builder.path = a.builder.path := by
  unfold flush
  split
  · exact path_insertBefore position a.pending a.builder
  · rfl

theorem HasRoom.flush (h : HasRoom a.builder a.frames) (position : Nat) :
    HasRoom (a.flush position).builder (a.flush position).frames := by
  unfold HasRoom
  rw [path_flush, frames_flush]
  exact h

theorem stop?_eq_some (h : HasRoom a.builder a.frames) (position : Nat) :
    a.stop? position = some (a.stop position) := by
  obtain ⟨hclose, hroom⟩ := closeImplicits?_eq_some h
  have hnodes : HasRoom a.closeNodes.builder a.closeNodes.frames := hroom
  rw [stop?, hclose, stop_eq]
  exact pop?_eq_some (hnodes.flush position)

/-- **With enough containers for the frames, no event closes the root.** -/
theorem step?_eq_some (h : HasRoom a.builder a.frames) (e : Located) :
    a.step? e = some (a.step e) := by
  obtain ⟨event, first, last⟩ := e
  cases event with
  | start tag => exact start?_eq_some (h.flush first) tag
  | stop => exact stop?_eq_some h last
  | rule =>
    show (a.flush first).closeImplicitParagraph?.map _ = _
    rw [closeImplicitParagraph?_eq_some (h.flush first)]
    rfl
  | _ => rfl

/-- **No events close the root.** -/
theorem foldlM_step?_eq_some (events : List Located) (definitions : List Definition) :
    events.foldlM step? (.begin definitions) = some (events.foldl step (.begin definitions)) := by
  induction events using List.reverseRecOn with
  | nil => rfl
  | append_singleton events e ih =>
    have haligned := aligned_foldl_step events definitions
    rw [List.foldlM_append, ih, List.foldl_append]
    show List.foldlM step? _ [e] = _
    rw [List.foldlM_cons, step?_eq_some haligned.hasRoom]
    rfl

/-! ## The end of a tag -/

/-- Frames are some nodes without a tag and what lies around them. -/
theorem exists_replicate_append : ∀ frames : List Frame, ∃ n rest,
    frames = List.replicate n .implicit ++ rest ∧ rest.head? ≠ some .implicit
  | [] => ⟨0, [], rfl, by simp⟩
  | f :: frames => by
    by_cases hf : f = .implicit
    · obtain ⟨n, rest, hrest, hhead⟩ := exists_replicate_append frames
      exact ⟨n + 1, rest, by rw [hf, hrest, List.replicate_succ, List.cons_append], hhead⟩
    · exact ⟨0, f :: frames, rfl, by simpa using hf⟩

theorem closeImplicits_replicate {rest : List Frame} (hhead : rest.head? ≠ some .implicit) :
    ∀ (n : Nat) (b : Builder),
      (closeImplicits b (List.replicate n .implicit ++ rest)).2 = rest ∧
        (closeImplicits b (List.replicate n .implicit ++ rest)).1.path = b.path.drop n
  | 0, b => by
    cases rest with
    | nil => exact ⟨rfl, rfl⟩
    | cons f rest =>
      cases f with
      | implicit => exact absurd rfl hhead
      | _ => exact ⟨rfl, rfl⟩
  | n + 1, b => by
    obtain ⟨hframes, hpath⟩ := closeImplicits_replicate hhead n b.close
    refine ⟨hframes, hpath.trans ?_⟩
    show b.path.tail.drop n = b.path.drop (n + 1)
    rw [List.drop_tail]

/-- The innermost tag takes its container with it, if it has one. -/
theorem pop_cases {rest : List Frame} (hframes : a.frames = f :: rest) (hf : f ≠ .implicit) :
    a.pop.frames = rest ∧ a.pop.builder.path = a.builder.path.drop f.hasNode.toNat := by
  unfold pop
  rw [hframes]
  cases f with
  | explicit => exact ⟨rfl, List.drop_one.symm⟩
  | implicit => exact absurd rfl hf
  | transparent => exact ⟨rfl, rfl⟩
  | literal kind text => exact ⟨rfl, rfl⟩
  | metadata => exact ⟨rfl, rfl⟩

/-- First the nodes without a tag are closed. Definitions that come next change neither stack. -/
theorem closeNodes_flush_replicate {n : Nat} {rest : List Frame}
    (hframes : a.frames = List.replicate n .implicit ++ rest)
    (hhead : rest.head? ≠ some .implicit) (position : Nat) :
    (a.closeNodes.flush position).frames = rest ∧
      (a.closeNodes.flush position).builder.path = a.builder.path.drop n := by
  have hclose := closeImplicits_replicate hhead n a.builder
  rw [← hframes] at hclose
  rw [frames_flush, path_flush]
  exact hclose

/-- **The end of a tag takes the nodes without a tag, and one more frame.** -/
theorem stop_of_frames {n : Nat} {rest : List Frame}
    (hframes : a.frames = List.replicate n .implicit ++ f :: rest) (hf : f ≠ .implicit)
    (position : Nat) : (a.stop position).frames = rest ∧
      (a.stop position).builder.path = a.builder.path.drop (n + f.hasNode.toNat) := by
  have hhead : (f :: rest).head? ≠ some .implicit := by simpa using hf
  obtain ⟨hnodes, hpath⟩ := closeNodes_flush_replicate hframes hhead position
  obtain ⟨hpop, hpopPath⟩ := pop_cases hnodes hf
  rw [stop_eq]
  refine ⟨hpop, ?_⟩
  rw [hpopPath, hpath, List.drop_drop]

/-- Where there are only nodes without a tag, nothing else is closed. -/
theorem stop_of_implicits {n : Nat} (hframes : a.frames = List.replicate n .implicit)
    (position : Nat) : (a.stop position).frames = [] ∧
      (a.stop position).builder.path = a.builder.path.drop n := by
  have hhead : ([] : List Frame).head? ≠ some .implicit := by simp
  rw [← List.append_nil (List.replicate n _)] at hframes
  obtain ⟨hnodes, hpath⟩ := closeNodes_flush_replicate hframes hhead position
  rw [stop_eq, pop, hnodes]
  exact ⟨hnodes, hpath⟩

end Assembly

/-- A node that is opened without a tag is a wrapping paragraph, or the row or the body of a table. -/
theorem Frame.kind_of_implicit_opens {k : NodeKind} (h : Frame.implicit.opens k = true) :
    k = .block (.paragraph false) ∨ k = .block .tableRow ∨ k = .block .tableBody := by
  cases k with
  | inline i => cases h
  | block b =>
    cases b with
    | paragraph fadeOut =>
      cases fadeOut with
      | false => exact .inl rfl
      | true => cases h
    | tableRow => exact .inr (.inl rfl)
    | tableBody => exact .inr (.inr rfl)
    | _ => cases h

/-- **The two stacks of an assembly.** After any events, the open containers below the root are, one
by one and in order, those of the frames that have a container, and each is of a kind that is opened
along with its frame; without a tag this is a paragraph, or the row or the body of a table. The root
was not closed by any event. The end of a tag takes the nodes without a tag that are innermost and
one more frame; without such a frame it goes back to the root. -/
theorem frames_aligned (events : List Located) (definitions : List Definition) :
    let a := events.foldl Assembly.step (.begin definitions)
    List.Forall₂ (fun id f => f.opens (a.builder.document.kind id) = true) a.builder.path
        (a.frames.filter Frame.hasNode) ∧
      a.builder.depth = 1 + a.frames.countP Frame.hasNode ∧
      (∀ id, (id, .implicit) ∈ a.builder.path.zip (a.frames.filter Frame.hasNode) →
        a.builder.document.kind id = .block (.paragraph false) ∨
          a.builder.document.kind id = .block .tableRow ∨
          a.builder.document.kind id = .block .tableBody) ∧
      events.foldlM Assembly.step? (.begin definitions) = some a ∧
      ∀ first last : Nat,
        let b := a.step ⟨.stop, first, last⟩
        (∃ n f rest, f ≠ .implicit ∧ a.frames = List.replicate n .implicit ++ f :: rest ∧
            b.frames = rest ∧ b.builder.path = a.builder.path.drop (n + f.hasNode.toNat)) ∨
          (∃ n, a.frames = List.replicate n .implicit ∧ b.frames = [] ∧ b.builder.path = [] ∧
            b.builder.current = 0) := by
  intro a
  have haligned : a.Aligned := Assembly.aligned_foldl_step events definitions
  refine ⟨haligned, ?_, ?_, Assembly.foldlM_step?_eq_some events definitions, ?_⟩
  · rw [Builder.depth, haligned.length_eq, Nat.add_comm]
  · intro id hmem
    exact Frame.kind_of_implicit_opens ((List.forall₂_iff_zip.mp haligned).2 hmem)
  · intro first last b
    have hb : b = a.stop last := rfl
    rw [hb]
    obtain ⟨n, rest, hframes, hhead⟩ := Assembly.exists_replicate_append a.frames
    cases rest with
    | cons f rest =>
      have hf : f ≠ .implicit := by simpa using hhead
      obtain ⟨hrest, hpath⟩ := Assembly.stop_of_frames hframes hf last
      exact .inl ⟨n, f, rest, hf, hframes, hrest, hpath⟩
    | nil =>
      rw [List.append_nil] at hframes
      obtain ⟨hnil, hpath⟩ := Assembly.stop_of_implicits hframes last
      have hlength : a.builder.path.length = n := by
        rw [haligned.length_eq, hframes, List.countP_replicate]
        rfl
      have hroot : (a.stop last).builder.path = [] := by
        rw [hpath, ← hlength, List.drop_length]
      exact .inr ⟨n, hframes, hnil, hroot, by rw [Builder.current, hroot]; rfl⟩

end MarkdownTree
