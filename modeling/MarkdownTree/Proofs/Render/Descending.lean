import MarkdownTree.Proofs.Render.Trace
import MarkdownTree.Proofs.Tree.Kinds
import MarkdownTree.Proofs.Tree.Walk

/-!
# Composers that go on everywhere

A composer that claims every block and renders its children leads a pass through all blocks down to
the limit, as far as they are not below inline nodes. The nodes that come up are a walk from the
root along the children of blocks; blocks among them are visited, and the others are out of place.
The level of a node in the walk is the number of its ancestors and one.

* `Document.below` — where the composer goes on from a node.
* `filterMap_trace_descending` — what can be observed of a node is what can be observed of the nodes
  of the walk, one after the other.
* `UnderBlocks`, `mem_walk_below_iff` — the nodes of the walk, by their ancestors.
* `run_descending` — what a pass with such a composer visits, calls and reports.
-/

namespace MarkdownTree

/-- The composer that claims all block types and renders the children of every block. -/
def Composer.descending : Composer :=
  .claiming (fun _ => true) [.children]

namespace Document

/-- The nodes that the composer goes on to: the children of a block, and none from an inline
node. -/
def below (doc : Document) (id : NodeId) : List NodeId :=
  if (doc.kind id).isBlock then doc.children id else []

/-- What is wrong with a node that stands where a block should, if anything is. -/
def inlineComplaint? (doc : Document) (id : NodeId) : Option DiagnosticKind :=
  match doc.kind id with
  | .block _ => none
  | .inline (.text _) => some .textOutsideBlock
  | .inline _ => some .inlineInBlockPosition

/-- What happens at a node itself when it stands where a block should. -/
def stray (doc : Document) (id : NodeId) : List Observation :=
  match doc.kind id with
  | .block _ => []
  | .inline (.text literal) => [.report id .textOutsideBlock, .call (.run literal)]
  | .inline _ => [.report id .inlineInBlockPosition]

/-- What happens at a node of a level itself. -/
def own (doc : Document) (maxDepth : Nat) (id : NodeId) (level : Nat) : List Observation :=
  if maxDepth < level then [.stop id level] else .enter id level :: doc.stray id

end Document

/-! ## The trace is a walk -/

theorem hasType_true (doc : Document) (id : NodeId) :
    doc.hasType (fun _ => true) id = (doc.kind id).isBlock := by
  rw [Document.hasType]
  cases doc.kind id <;> rfl

theorem claim?_descending (doc : Document) (id : NodeId) :
    Pass.claim? ⟨doc, .descending⟩ id =
      if (doc.kind id).isBlock then some [.children] else none := by
  rw [Composer.descending, claim?_claiming, hasType_true]

/-- Between entering a node and returning from it happens something at the node itself if it is
inline, and the children are rendered if it is a block. -/
theorem inside_descending (doc : Document) (visit : NodeId → List Observation) (level : Nat)
    (id : NodeId) :
    PassSetup.inside ⟨doc, .descending⟩ visit level id =
      doc.stray id ++ (doc.below id).flatMap visit := by
  rw [PassSetup.inside, claim?_descending]
  cases hkind : doc.kind id with
  | block b =>
    have hstray : doc.stray id = [] := by rw [Document.stray, hkind]
    have hbelow : doc.below id = doc.children id := by rw [Document.below, hkind]; rfl
    rw [hstray, hbelow]
    simp [NodeKind.isBlock, Document.actionTrace, Task.ofAction, List.flatMap_map,
      Document.taskTrace, Task.trace]
  | inline i =>
    have hbelow : doc.below id = [] := by rw [Document.below, hkind]; rfl
    rw [hbelow, Document.stray, hkind]
    simp only [NodeKind.isBlock, Document.ruleTrace, Document.ruleTasks, hkind]
    cases i <;> rfl

/-- **What can be observed of a node, apart from returns, is what can be observed of the nodes of
the walk.** -/
theorem filterMap_trace_descending {α : Type} {doc : Document} {maxDepth : Nat}
    {f : Observation → Option α} (hf : f .leave = none) : ∀ {levels level : Nat},
    levels + level = maxDepth + 1 → ∀ id,
      (PassSetup.trace ⟨doc, .descending⟩ levels level id).filterMap f =
        (Document.walk doc.below levels level id).flatMap fun d =>
          (doc.own maxDepth d.1 d.2).filterMap f
  | 0, level, hlevels, id => by
    have hlimit : maxDepth < level := by omega
    rw [PassSetup.trace, Document.walk, List.flatMap_singleton, Document.own, if_pos hlimit]
  | levels + 1, level, hlevels, id => by
    have hlimit : ¬ maxDepth < level := by omega
    have hown : doc.own maxDepth id level = .enter id level :: doc.stray id := if_neg hlimit
    have hbelow : (fun c => (PassSetup.trace ⟨doc, .descending⟩ levels (level + 1) c).filterMap f) =
        fun c => (Document.walk doc.below levels (level + 1) c).flatMap fun d =>
          (doc.own maxDepth d.1 d.2).filterMap f :=
      funext (filterMap_trace_descending hf (by omega))
    calc (PassSetup.trace ⟨doc, .descending⟩ (levels + 1) level id).filterMap f
      _ = (doc.own maxDepth id level ++ (doc.below id).flatMap
            (PassSetup.trace ⟨doc, .descending⟩ levels (level + 1)) ++
              [Observation.leave]).filterMap f := by
        rw [PassSetup.trace, inside_descending, hown]
        simp
      _ = (doc.own maxDepth id level).filterMap f ++ (doc.below id).flatMap fun c =>
            (PassSetup.trace ⟨doc, .descending⟩ levels (level + 1) c).filterMap f := by
        simp [List.filterMap_append, List.filterMap_flatMap, hf]
      _ = _ := by
        rw [hbelow, Document.walk, List.flatMap_cons, List.flatMap_assoc]

/-! ## Nodes below blocks only -/

namespace Document

/-- Whether a node has the given number of ancestors, all of which are blocks. -/
def UnderBlocks (doc : Document) (id : NodeId) (number : Nat) : Prop :=
  id < doc.size ∧ ∃ ancestors : List NodeId, Linked doc.parent? (doc.parent? id) ancestors ∧
    (∀ a ∈ ancestors, (doc.kind a).isBlock) ∧ ancestors.length = number

variable {doc : Document}

theorem mem_below_iff {id c : NodeId} :
    c ∈ doc.below id ↔ (doc.kind id).isBlock ∧ c ∈ doc.children id := by
  rw [below]
  split <;> simp_all

theorem below_eq_nil {id : NodeId} (h : doc.children id = []) : doc.below id = [] := by
  rw [below, h, ite_self]

theorem goesDown_below : doc.GoesDown doc.below := by
  intro f hf parent above id t h
  rw [below]
  split
  · exact h.flatMap_children_inStretch hf
  · exact .nil

theorem Ordered.underBlocks_root (hdoc : doc.Ordered) : doc.UnderBlocks 0 0 := by
  obtain ⟨hsize, hroot⟩ := (hdoc.parent?_eq_none_iff 0).mpr rfl
  refine ⟨hsize, [], ?_, by simp, rfl⟩
  rw [hroot]
  exact .nil

/-- A child of a block has one ancestor more. -/
theorem Ordered.underBlocks_of_mem_below (hdoc : doc.Ordered) {id c : NodeId} {number : Nat}
    (h : doc.UnderBlocks id number) (hc : c ∈ doc.below id) : doc.UnderBlocks c (number + 1) := by
  obtain ⟨hblock, hc⟩ := mem_below_iff.mp hc
  obtain ⟨-, ancestors, hlinked, hblocks, rfl⟩ := h
  have hparent : doc.parent? c = some id := (hdoc.mem_children_iff id c).mp hc
  refine ⟨lt_size_of_parent? hparent, id :: ancestors, ?_, ?_, rfl⟩
  · rw [hparent]
    exact .cons hlinked
  · exact List.forall_mem_cons.mpr ⟨hblock, hblocks⟩

/-- **Where a walk along the children of blocks leads.** Its nodes are those whose ancestors are all
blocks and not more than there are levels. -/
theorem Ordered.mem_walk_below_iff (hdoc : doc.Ordered) {maxDepth : Nat} {id level : Nat} :
    (id, level) ∈ walk doc.below maxDepth 1 0 ↔
      ∃ number ≤ maxDepth, doc.UnderBlocks id number ∧ level = number + 1 := by
  constructor
  · let P (c : NodeId) (l : Nat) : Prop :=
      ∃ number ≤ maxDepth, doc.UnderBlocks c number ∧ l = number + 1
    have hfirst : P 0 1 := ⟨0, Nat.zero_le _, hdoc.underBlocks_root, rfl⟩
    have hnext : ∀ {c e : NodeId} {l : Nat}, P c l → l ≤ maxDepth → e ∈ doc.below c →
        P e (l + 1) := by
      rintro c e l ⟨number, -, hunder, rfl⟩ hl he
      exact ⟨number + 1, hl, hdoc.underBlocks_of_mem_below hunder he, rfl⟩
    exact walk_induction (P := P) rfl hfirst hnext
  · rintro ⟨number, hnumber, ⟨hid, ancestors, hlinked, hblocks, rfl⟩, rfl⟩
    -- from the root down, one ancestor after the other
    induction ancestors generalizing id with
    | nil =>
      generalize hparent : doc.parent? id = above at hlinked
      cases hlinked
      rw [(hdoc.parent?_eq_none_iff id).mp ⟨hid, hparent⟩]
      exact mem_walk_self doc.below maxDepth 1 0
    | cons parent ancestors ih =>
      generalize hparent : doc.parent? id = above at hlinked
      cases hlinked with
      | cons hlinked =>
        obtain ⟨hblock, hblocks⟩ := List.forall_mem_cons.mp hblocks
        have hlt : parent < doc.size := Nat.lt_trans (hdoc.parent_lt id parent hparent) hid
        have hmem := ih hlt hlinked hblocks (Nat.le_of_succ_le hnumber)
        refine mem_walk_of_mem_next rfl hmem hnumber ?_
        exact mem_below_iff.mpr ⟨hblock, (hdoc.mem_children_iff parent id).mpr hparent⟩

/-! ## What is found at the nodes of the walk -/

/-- The nodes that come up, with their levels. -/
def comingUp (doc : Document) (maxDepth : Nat) : List (NodeId × Nat) :=
  walk doc.below maxDepth 1 0

/-- What is found at the nodes that come up, where `find` looks at a node and its level. -/
def found {α : Type} (doc : Document) (maxDepth : Nat) (find : NodeId → Nat → Option α) :
    List (NodeId × α) :=
  (doc.comingUp maxDepth).filterMap fun d => (find d.1 d.2).map (d.1, ·)

/-- The level at which a node is visited. -/
def visitLevel? (doc : Document) (maxDepth : Nat) (id : NodeId) (level : Nat) : Option Nat :=
  if maxDepth < level then none else if (doc.kind id).isBlock then some level else none

/-- The text that is put out at a node. -/
def strayText? (doc : Document) (maxDepth : Nat) (id : NodeId) (level : Nat) : Option String :=
  if maxDepth < level then none
  else
    match doc.kind id with
    | .inline (.text literal) => some literal
    | _ => none

/-- What is reported of a node. -/
def flaw? (doc : Document) (maxDepth : Nat) (id : NodeId) (level : Nat) : Option DiagnosticKind :=
  if maxDepth < level then some .depthExceeded else doc.inlineComplaint? id

variable {α : Type} {maxDepth : Nat} {find : NodeId → Nat → Option α}

theorem mem_found_iff {id : NodeId} {a : α} :
    (id, a) ∈ doc.found maxDepth find ↔
      ∃ level, (id, level) ∈ doc.comingUp maxDepth ∧ find id level = some a := by
  simp only [found, List.mem_filterMap, Option.map_eq_some_iff, Prod.mk.injEq, Prod.exists]
  constructor
  · rintro ⟨c, level, hmem, b, hfind, rfl, rfl⟩
    exact ⟨level, hmem, hfind⟩
  · rintro ⟨level, hmem, hfind⟩
    exact ⟨id, level, hmem, a, hfind, rfl, rfl⟩

/-- Something is found at each node once at most. -/
theorem map_fst_filterMap_sublist (find : NodeId → Nat → Option α) : ∀ ds : List (NodeId × Nat),
    ((ds.filterMap fun d => (find d.1 d.2).map (d.1, ·)).map Prod.fst).Sublist (ds.map Prod.fst)
  | [] => .slnil
  | d :: ds => by
    have hrest := map_fst_filterMap_sublist find ds
    rw [List.filterMap_cons, List.map_cons]
    cases find d.1 d.2 with
    | none => exact hrest.cons _
    | some a => exact hrest.cons_cons _

/-- **What is found is found in document order.** -/
theorem pairwise_found (t : Tree) (maxDepth : Nat) (find : NodeId → Nat → Option α) :
    ((t.document.found maxDepth find).map Prod.fst).Pairwise (· < ·) := by
  have hcomingUp : ((t.document.comingUp maxDepth).map Prod.fst).Pairwise (· < ·) :=
    pairwise_walk goesDown_below (fun _ => below_eq_nil) maxDepth 1 0
  exact hcomingUp.sublist (map_fst_filterMap_sublist find _)

/-- What can be observed of a pass is found at the nodes that come up, if it is found in what
happens at each of them. -/
theorem filterMap_passTrace_descending {β : Type} {f : Observation → Option β}
    {shown : NodeId → α → β} (hf : f .leave = none)
    (hown : ∀ id level,
      (doc.own maxDepth id level).filterMap f = ((find id level).map (shown id)).toList) :
    (PassSetup.passTrace ⟨doc, .descending⟩ maxDepth (some 0)).filterMap f =
      (doc.found maxDepth find).map fun e => shown e.1 e.2 := by
  rw [PassSetup.passTrace, Option.toList_some, List.flatMap_singleton,
    filterMap_trace_descending hf rfl, found, List.map_filterMap, List.filterMap_eq_flatMap_toList]
  simp only [hown, Option.map_map]
  rfl

theorem visits_own (id : NodeId) (level : Nat) :
    PassSetup.visits ⟨doc, .descending⟩ (doc.own maxDepth id level) =
      ((doc.visitLevel? maxDepth id level).map (id, ·)).toList := by
  by_cases hlimit : maxDepth < level
  · simp [own, visitLevel?, PassSetup.visits, Observation.isVisit, hlimit]
  · simp only [own, visitLevel?, hlimit, if_false, stray]
    cases hkind : doc.kind id with
    | block b =>
      simp [PassSetup.visits, Observation.isVisit, claim?_descending, hkind, NodeKind.isBlock,
        Observation.rendered?]
    | inline i =>
      cases i <;> simp [PassSetup.visits, Observation.isVisit, claim?_descending, hkind,
        NodeKind.isBlock]

theorem filterMap_call?_own (id : NodeId) (level : Nat) :
    (doc.own maxDepth id level).filterMap Observation.call? =
      ((doc.strayText? maxDepth id level).map Call.run).toList := by
  by_cases hlimit : maxDepth < level
  · simp [own, strayText?, Observation.call?, hlimit]
  · simp only [own, strayText?, hlimit, if_false, stray]
    cases doc.kind id with
    | block b => rfl
    | inline i => cases i <;> rfl

theorem filterMap_diagnostic?_own (id : NodeId) (level : Nat) :
    (doc.own maxDepth id level).filterMap (Observation.diagnostic? doc) =
      ((doc.flaw? maxDepth id level).map (.of doc id)).toList := by
  by_cases hlimit : maxDepth < level
  · simp [own, flaw?, Observation.diagnostic?, hlimit]
  · simp only [own, flaw?, hlimit, if_false, stray, inlineComplaint?]
    cases doc.kind id with
    | block b => rfl
    | inline i => cases i <;> rfl

/-! ## Where it is found -/

/-- The nodes that are visited, with their levels. -/
def visited (doc : Document) (maxDepth : Nat) : List (NodeId × Nat) :=
  doc.found maxDepth (doc.visitLevel? maxDepth)

/-- The visited nodes are the blocks that come up within the limit. -/
theorem mem_visited_iff {id : NodeId} {level : Nat} :
    (id, level) ∈ doc.visited maxDepth ↔
      (id, level) ∈ doc.comingUp maxDepth ∧ level ≤ maxDepth ∧ (doc.kind id).isBlock := by
  rw [visited, mem_found_iff]
  constructor
  · rintro ⟨l, hmem, hvisit⟩
    rw [visitLevel?, Option.ite_none_left_eq_some, Option.ite_none_right_eq_some] at hvisit
    obtain ⟨hlimit, hblock, heq⟩ := hvisit
    cases heq
    exact ⟨hmem, Nat.le_of_not_lt hlimit, hblock⟩
  · rintro ⟨hmem, hlevel, hblock⟩
    refine ⟨level, hmem, ?_⟩
    rw [visitLevel?, if_neg (Nat.not_lt_of_le hlevel), if_pos hblock]

/-- **The visited nodes, by their ancestors.** -/
theorem Ordered.mem_visited_iff_underBlocks (hdoc : doc.Ordered) {id : NodeId} {level : Nat} :
    (id, level) ∈ doc.visited maxDepth ↔ (doc.kind id).isBlock ∧
      ∃ number < maxDepth, doc.UnderBlocks id number ∧ level = number + 1 := by
  rw [mem_visited_iff, comingUp, hdoc.mem_walk_below_iff]
  constructor
  · rintro ⟨⟨number, -, hunder, rfl⟩, hlevel, hblock⟩
    exact ⟨hblock, number, hlevel, hunder, rfl⟩
  · rintro ⟨hblock, number, hlt, hunder, rfl⟩
    exact ⟨⟨number, Nat.le_of_lt hlt, hunder, rfl⟩, hlt, hblock⟩

/-- All nodes that come up but the root are children of visited nodes. -/
theorem mem_comingUp_iff {id : NodeId} {level : Nat} :
    (id, level) ∈ doc.comingUp maxDepth ↔ (id = 0 ∧ level = 1) ∨
      ∃ parent k, (parent, k) ∈ doc.visited maxDepth ∧ id ∈ doc.children parent ∧
        level = k + 1 := by
  rw [comingUp, mem_walk_iff rfl]
  refine or_congr Iff.rfl ⟨?_, ?_⟩
  · rintro ⟨parent, k, hparent, hk, hbelow, hlevel⟩
    obtain ⟨hblock, hchild⟩ := mem_below_iff.mp hbelow
    exact ⟨parent, k, mem_visited_iff.mpr ⟨hparent, hk, hblock⟩, hchild, hlevel⟩
  · rintro ⟨parent, k, hvisited, hchild, hlevel⟩
    obtain ⟨hparent, hk, hblock⟩ := mem_visited_iff.mp hvisited
    exact ⟨parent, k, hparent, hk, mem_below_iff.mpr ⟨hblock, hchild⟩, hlevel⟩

/-- **Texts are put out below visited nodes, one level further within the limit.** -/
theorem mem_strayTexts_iff (hroot : (doc.kind 0).isBlock) {id : NodeId} {literal : String} :
    (id, literal) ∈ doc.found maxDepth (doc.strayText? maxDepth) ↔
      doc.kind id = .inline (.text literal) ∧ ∃ parent level,
        (parent, level) ∈ doc.visited maxDepth ∧ level < maxDepth ∧ id ∈ doc.children parent := by
  have htext : ∀ level, doc.strayText? maxDepth id level = some literal ↔
      level ≤ maxDepth ∧ doc.kind id = .inline (.text literal) := by
    intro level
    rw [strayText?]
    grind
  rw [mem_found_iff]
  constructor
  · rintro ⟨l, hmem, h⟩
    obtain ⟨hl, hkind⟩ := (htext l).mp h
    refine ⟨hkind, ?_⟩
    rcases mem_comingUp_iff.mp hmem with ⟨rfl, -⟩ | ⟨parent, level, hvisited, hchild, rfl⟩
    · -- the root is no text
      rw [hkind] at hroot
      cases hroot
    · exact ⟨parent, level, hvisited, hl, hchild⟩
  · rintro ⟨hkind, parent, level, hvisited, hlevel, hchild⟩
    exact ⟨level + 1, mem_comingUp_iff.mpr (.inr ⟨parent, level, hvisited, hchild, rfl⟩),
      (htext _).mpr ⟨hlevel, hkind⟩⟩

/-- Nothing is wrong with a block that stands where a block should. -/
theorem inlineComplaint?_of_isBlock {id : NodeId} (h : (doc.kind id).isBlock) :
    doc.inlineComplaint? id = none := by
  rw [inlineComplaint?]
  cases hkind : doc.kind id with
  | block b => rfl
  | inline i =>
    rw [hkind] at h
    cases h

/-- **Reported are the children of visited nodes that are inline or beyond the limit**, and the root
if nothing may be rendered. -/
theorem mem_flaws_iff (hroot : (doc.kind 0).isBlock) {id : NodeId} {kind : DiagnosticKind} :
    (id, kind) ∈ doc.found maxDepth (doc.flaw? maxDepth) ↔
      (maxDepth = 0 ∧ id = 0 ∧ kind = .depthExceeded) ∨ ∃ parent level,
        (parent, level) ∈ doc.visited maxDepth ∧ id ∈ doc.children parent ∧
          if level = maxDepth then kind = .depthExceeded
          else doc.inlineComplaint? id = some kind := by
  -- a child is beyond the limit just if its parent is on the last level
  have hflaw : ∀ {parent level : Nat}, (parent, level) ∈ doc.visited maxDepth →
      (doc.flaw? maxDepth id (level + 1) = some kind ↔
        if level = maxDepth then kind = .depthExceeded
        else doc.inlineComplaint? id = some kind) := by
    intro parent level hvisited
    have hlevel := (mem_visited_iff.mp hvisited).2.1
    have hbeyond : maxDepth < level + 1 ↔ level = maxDepth := by omega
    simp only [flaw?, hbeyond]
    split
    · rw [Option.some_inj, eq_comm]
    · rfl
  rw [mem_found_iff]
  constructor
  · rintro ⟨l, hmem, h⟩
    rcases mem_comingUp_iff.mp hmem with ⟨rfl, rfl⟩ | ⟨parent, level, hvisited, hchild, rfl⟩
    · rw [flaw?, inlineComplaint?_of_isBlock hroot, Option.ite_none_right_eq_some] at h
      exact .inl ⟨Nat.lt_one_iff.mp h.1, rfl, (Option.some.inj h.2).symm⟩
    · exact .inr ⟨parent, level, hvisited, hchild, (hflaw hvisited).mp h⟩
  · rintro (⟨rfl, rfl, rfl⟩ | ⟨parent, level, hvisited, hchild, h⟩)
    · exact ⟨1, mem_comingUp_iff.mpr (.inl ⟨rfl, rfl⟩), rfl⟩
    · exact ⟨level + 1, mem_comingUp_iff.mpr (.inr ⟨parent, level, hvisited, hchild, rfl⟩),
        (hflaw hvisited).mpr h⟩

end Document

/-! ## The pass -/

theorem Composer.uncounting_descending : descending.Uncounting :=
  uncounting_claiming _ (by decide)

section

variable {σ : Type} [Sink σ] (doc : Document) (maxDepth : Nat) (sink : σ)

theorem visits_run_descending :
    (Pass.run ⟨doc, .descending⟩ maxDepth (some 0) sink).visits.reverse = doc.visited maxDepth := by
  have hvisits : PassSetup.visits ⟨doc, .descending⟩ = List.filterMap fun o =>
      if o.isVisit ⟨doc, .descending⟩ then o.rendered? else none := by
    funext os
    rw [PassSetup.visits, List.filterMap_filter]
  have hown : ∀ id level, PassSetup.visits ⟨doc, .descending⟩ (doc.own maxDepth id level) =
      ((doc.visitLevel? maxDepth id level).map (id, ·)).toList := Document.visits_own
  rw [hvisits] at hown
  rw [Pass.visits_run Composer.uncounting_descending, hvisits,
    Document.filterMap_passTrace_descending rfl hown, Document.visited]
  exact List.map_id _

theorem diagnostics_run_descending :
    (Pass.run ⟨doc, .descending⟩ maxDepth (some 0) sink).diagnostics.reverse =
      (doc.found maxDepth (doc.flaw? maxDepth)).map fun f => .of doc f.1 f.2 := by
  rw [Pass.diagnostics_run Composer.uncounting_descending]
  exact Document.filterMap_passTrace_descending rfl Document.filterMap_diagnostic?_own

theorem calls_run_descending :
    (Pass.run ⟨doc, .descending⟩ maxDepth (some 0) ({} : Recording)).sink.calls =
      (doc.found maxDepth (doc.strayText? maxDepth)).map fun t => .run t.2 := by
  rw [Pass.calls_run Composer.uncounting_descending]
  exact Document.filterMap_passTrace_descending rfl Document.filterMap_call?_own

end

/-- **A composer that claims all blocks and renders their children.** It is given the blocks that
have blocks only above them and fewer ancestors than there are levels, in document order and each of
them once, on the level that follows from the number of ancestors. The calls show the texts that are
children of such nodes within the limit. The diagnostics are one for each child of such a node that
is inline or just beyond the limit, and one for the root if nothing may be rendered. -/
theorem run_descending (operations : List Builder.Operation) (maxDepth : Nat) :
    let doc := (Builder.run operations).document
    let p := Pass.run ⟨doc, .descending⟩ maxDepth (some 0) ({} : Recording)
    (p.visits.reverse.map Prod.fst).Pairwise (· < ·) ∧
      (∀ id level, (id, level) ∈ p.visits ↔ (doc.kind id).isBlock ∧
        ∃ number < maxDepth, doc.UnderBlocks id number ∧ level = number + 1) ∧
      (∃ texts : List (NodeId × String), (texts.map Prod.fst).Pairwise (· < ·) ∧
        (∀ id literal, (id, literal) ∈ texts ↔ doc.kind id = .inline (.text literal) ∧
          ∃ parent level, (parent, level) ∈ p.visits ∧ level < maxDepth ∧
            id ∈ doc.children parent) ∧
        p.sink.calls = texts.map fun t => .run t.2) ∧
      ∃ flaws : List (NodeId × DiagnosticKind), (flaws.map Prod.fst).Pairwise (· < ·) ∧
        (∀ id kind, (id, kind) ∈ flaws ↔ (maxDepth = 0 ∧ id = 0 ∧ kind = .depthExceeded) ∨
          ∃ parent level, (parent, level) ∈ p.visits ∧ id ∈ doc.children parent ∧
            if level = maxDepth then kind = .depthExceeded
            else doc.inlineComplaint? id = some kind) ∧
        p.diagnostics.reverse = flaws.map fun f => .of doc f.1 f.2 := by
  intro doc p
  have hdoc : doc.Ordered := Builder.ordered_run operations
  have hroot : (doc.kind 0).isBlock := by
    rw [Builder.kind_root operations]
    rfl
  have hpairwise : ∀ {α : Type} (find : NodeId → Nat → Option α),
      ((doc.found maxDepth find).map Prod.fst).Pairwise (· < ·) := by
    intro α find
    have htree : doc = doc.tree.document := Builder.document_run operations
    rw [htree]
    exact Document.pairwise_found doc.tree maxDepth find
  have hreverse : p.visits.reverse = doc.visited maxDepth :=
    visits_run_descending doc maxDepth ({} : Recording)
  have hvisits : ∀ d, d ∈ p.visits ↔ d ∈ doc.visited maxDepth := by
    intro d
    rw [← hreverse, List.mem_reverse]
  simp only [hvisits]
  refine ⟨?_, fun id level => hdoc.mem_visited_iff_underBlocks,
    ⟨_, hpairwise _, fun id literal => Document.mem_strayTexts_iff hroot,
      calls_run_descending doc maxDepth⟩,
    ⟨_, hpairwise _, fun id kind => Document.mem_flaws_iff hroot,
      diagnostics_run_descending doc maxDepth ({} : Recording)⟩⟩
  rw [hreverse]
  exact hpairwise _

/-- A quote with a text and with a break below an inline node. The break does not come up; with two
levels the text and the inline node are beyond the limit. -/
example :
    let doc := (((Builder.new.openNode (.block .blockQuote)).leaf (.inline (.text "a"))).openNode
      (.inline .strong)).leaf (.block .thematicBreak) |>.document
    let p := Pass.run ⟨doc, .descending⟩ 3 (some 0) ({} : Recording)
    let q := Pass.run ⟨doc, .descending⟩ 2 (some 0) ({} : Recording)
    p.visits.reverse = [(0, 1), (1, 2)] ∧ p.sink.calls = [.run "a"] ∧
      p.diagnostics.reverse = [.of doc 2 .textOutsideBlock, .of doc 3 .inlineInBlockPosition] ∧
      q.visits = p.visits ∧ q.sink.calls = [] ∧
      q.diagnostics.reverse = [.of doc 2 .depthExceeded, .of doc 3 .depthExceeded] := by
  decide +kernel

end MarkdownTree
