import MarkdownTree.Proofs.Assembly.Inserted
import MarkdownTree.Proofs.Assembly.Tally

/-!
# Complete trees stay

A tree that is complete below an open container is not touched again. What is appended, opened and
closed later comes behind it, so that the nodes in front of it are known as soon as it is there.

* `Zipper.Keeps` — a tree is complete below some open containers, and what is in front of it.
* `Draft.Keeps.move` — every move keeps it.
* `Zipper.Keeps.exists_subtrees` — it is a subtree in the end, with the same nodes in front.
* `exists_subtrees_of_table` — so wherever the events of a table occur, the table is a subtree.
-/

namespace MarkdownTree

namespace Zipper

open MarkdownTree.Tree

/-- Whether a tree is complete below some open containers, innermost first. In document order the
nodes in front of it have the kinds `front`. -/
inductive Keeps (t : Tree) : List NodeKind → List Layer → Prop
  | here {l : Layer} {ls : List Layer} {pre post : List Tree} :
      subtreesAll l.done = pre ++ t :: post →
        Keeps t (outerKinds ls ++ l.kind :: pre.map kind) (l :: ls)
  | outer {front : List NodeKind} {l : Layer} {ls : List Layer} : Keeps t front ls →
      Keeps t front (l :: ls)

/-- A tree that was just appended is behind all nodes. -/
theorem keeps_append (z : Zipper) (t : Tree) :
    Keeps t z.tree.kinds ((z.append [t]).layer :: (z.append [t]).outer) := by
  obtain ⟨k, cs⟩ := t
  have hsubtrees : subtreesAll (z.layer.append [.node k cs]).done =
      subtreesAll z.layer.done ++ .node k cs :: subtreesAll cs := by
    rw [Layer.append, subtreesAll_append, subtreesAll, subtrees, subtreesAll, List.append_nil]
  rw [kinds_tree, ← map_kind_subtreesAll]
  exact .here hsubtrees

namespace Keeps

variable {t : Tree} {front : List NodeKind} {l o : Layer} {ls : List Layer}

theorem append (h : Keeps t front (l :: ls)) (ts : List Tree) :
    Keeps t front (l.append ts :: ls) := by
  cases h with
  | @here _ _ pre post hdone =>
    have hsubtrees : subtreesAll (l.append ts).done = pre ++ t :: (post ++ subtreesAll ts) := by
      rw [Layer.append, subtreesAll_append, hdone, List.append_assoc, List.cons_append]
    exact .here hsubtrees
  | outer h => exact .outer h

theorem close (h : Keeps t front (l :: o :: ls)) : Keeps t front (o.append [l.close] :: ls) := by
  cases h with
  | @here _ _ pre post hdone =>
    -- the container that is closed comes in front of what is in it
    have hsubtrees : subtreesAll (o.append [l.close]).done =
        (subtreesAll o.done ++ l.close :: pre) ++ t :: post := by
      rw [Layer.append, subtreesAll_append, Layer.close, subtreesAll, subtrees, subtreesAll, hdone]
      simp
    have hfront : outerKinds ls ++ o.kind :: (subtreesAll o.done ++ l.close :: pre).map kind =
        outerKinds (o :: ls) ++ l.kind :: pre.map kind := by
      rw [List.map_append, map_kind_subtreesAll, outerKinds, List.map_cons, List.append_assoc,
        List.cons_append]
      rfl
    rw [← hfront]
    exact .here hsubtrees
  | outer h => exact h.append [l.close]

/-- **When all containers are closed the tree is a subtree**, behind the same nodes. -/
theorem exists_subtrees : ∀ {ls : List Layer} {l : Layer}, Keeps t front (l :: ls) →
    ∃ pre post, (plug l.close ls).subtrees = pre ++ t :: post ∧ pre.map kind = front
  | [], l, h => by
    cases h with
    | @here _ _ pre post hdone =>
      refine ⟨l.close :: pre, post, ?_, rfl⟩
      rw [plug, Layer.close, subtrees, hdone, List.cons_append]
    | outer h => cases h
  | o :: ls, l, h => by
    have hclosed := exists_subtrees h.close
    exact hclosed

end Keeps

end Zipper

namespace Assembly

/-- Whether a draft keeps a tree behind some nodes. -/
def Draft.Keeps (t : Tree) (front : List NodeKind) (d : Draft) : Prop :=
  Zipper.Keeps t front (d.zipper.layer :: d.zipper.outer)

namespace Draft.Keeps

variable {t : Tree} {front : List NodeKind} {d d' : Draft}

/-- **Every move keeps what is complete.** -/
theorem move (h : d.Keeps t front) (hmove : Move d d') : d'.Keeps t front := by
  cases hmove with
  | leaf _ _ => exact h.append _
  | enter _ _ => exact .outer h
  | @leave z frames pending f _ =>
    obtain ⟨l, outer⟩ := z
    cases outer with
    | nil => exact h
    | cons o outer => exact Zipper.Keeps.close h
  | push _ => exact h
  | drop _ => exact h
  | insert _ => exact h.append _

theorem moves (h : d.Keeps t front) (hmoves : Relation.ReflTransGen Move d d') :
    d'.Keeps t front :=
  of_moves (fun _ _ h hmove => h.move hmove) h hmoves

end Draft.Keeps

/-! ## Tables -/

theorem pending_closeImplicitParagraph (a : Assembly) :
    a.closeImplicitParagraph.pending = a.pending := by
  unfold closeImplicitParagraph
  split
  · split <;> rfl
  · rfl

/-- Without definitions, a block is opened in the container of a zipper, whatever came before. The
zipper has as many table roots as tables were started. -/
theorem exists_bare (before : List Located) (b : Block) :
    ∃ (z : Zipper) (frames : List Frame),
      (before.foldl step (begin [])).openBlock b =
        bare (z.openNode (.block b)) (.explicit :: frames) ∧
      z.tables = before.countP fun e => e.event.startsTable := by
  let start : Draft := ⟨.new, [], []⟩
  have hstart : begin [] = start.assembly := begin_nil
  have hpending : (before.foldl step (begin [])).closeImplicitParagraph.pending = [] := by
    rw [pending_closeImplicitParagraph]
    exact ((Enriches.begin []).foldl_step before).pending
  obtain ⟨d, hd, -, htables⟩ := (start.tallies_foldl_step before).trans
    (f := closeImplicitParagraph) Draft.tallies_closeImplicitParagraph
  obtain ⟨z, frames, pending⟩ := d
  rw [hstart, hd] at hpending
  cases (hpending : pending = [])
  refine ⟨z, frames, ?_, ?_⟩
  · rw [openBlock, hstart, hd, Draft.assembly, Zipper.openNode_builder]
    rfl
  · have hzero : start.zipper.tables = 0 := rfl
    rw [hzero, Nat.zero_add, Nat.add_zero] at htables
    exact htables

end Assembly

namespace Document

open Assembly

/-- **A table is a subtree wherever its events occur**, whatever comes before and after. There are
as many table roots in front of it as tables were started before. -/
theorem exists_subtrees_of_table (before after : List Located) (alignments : List Alignment)
    (opening closing : SourceRange) {content : List EventTree}
    (h : EventTree.tableNested content = true) :
    ∃ pre post : List Tree,
      (assembled (before ++
        (EventTree.element (.table alignments) opening closing content).events ++ after)
          []).subtrees =
          pre ++ .node (.block (.tableRoot alignments))
            (Tree.tableParts ((EventTree.piecesAll content).filterMap Piece.tree?)) :: post ∧
      (pre.countP fun u => u.kind.isTableRoot) = before.countP fun e => e.event.startsTable := by
  obtain ⟨z, frames, hopen, htables⟩ := exists_bare before (.tableRoot alignments)
  let table : Tree := .node (.block (.tableRoot alignments))
    (Tree.tableParts ((EventTree.piecesAll content).filterMap Piece.tree?))
  let d : Draft := ⟨z.append [table], frames, []⟩
  have hpending : (before.foldl step (begin [])).pending = [] :=
    ((Enriches.begin []).foldl_step before).pending
  have htable : (before ++ (EventTree.element (.table alignments) opening closing content).events
      ).foldl step (begin []) = d.assembly := by
    rw [List.foldl_append, EventTree.events, List.foldl_cons, step_start hpending, start_eq]
    simp only [Tag.role]
    rw [hopen, foldl_step_table content h]
    rfl
  obtain ⟨d', hd', hmoves⟩ := d.leads_foldl_step after
  obtain ⟨d'', hd'', hmoves'⟩ := d'.leads_flush endOfSource
  have hkeeps : d.Keeps table z.tree.kinds := z.keeps_append table
  obtain ⟨pre, post, hsubtrees, hpre⟩ :=
    Zipper.Keeps.exists_subtrees ((hkeeps.moves hmoves).moves hmoves')
  refine ⟨pre, post, ?_, ?_⟩
  · rw [assembled_of_finished (z := d''.zipper)]
    · exact hsubtrees
    · rw [finished, List.foldl_append, htable, hd', hd'']
      rfl
  · rw [← htables, Zipper.tables, ← hpre, List.countP_map]
    rfl

end Document

end MarkdownTree
