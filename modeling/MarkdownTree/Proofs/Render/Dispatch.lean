import MarkdownTree.Proofs.Render.Default
import MarkdownTree.Proofs.Tree.Walk

/-!
# Which nodes a pass dispatches, and what it reports

A pass without a composer dispatches the root, and from a node that is not beyond the limit it goes
on to some of the nodes below. The items of a list are not dispatched; what is below them is, one
level deeper than the list. So each node is dispatched once at most, and every diagnostic is about a
node that was dispatched beyond the limit or where it does not belong.

* `Document.Dispatched` — the nodes that are dispatched, with their levels.
* `Document.diagnosis?` — what is reported of a node that is dispatched at some level.
* `dispatches_eq_walk`, `mem_dispatches_iff` — the dispatched nodes in the order of the pass, which
  is that of a walk.
* `dispatches_staysBelow` — what is dispatched from a node on lies in the stretch of this
  node, in document order.
* `diagnostics_of_dispatched` — the diagnostics of a pass are those of the dispatched nodes.
-/

namespace MarkdownTree

namespace Document

/-- Whether a pass of `maxDepth` levels dispatches a node at a level, counted from one. -/
inductive Dispatched (doc : Document) (maxDepth : Nat) : NodeId → Nat → Prop
  | root : Dispatched doc maxDepth 0 1
  | child {id c : NodeId} {level : Nat} : Dispatched doc maxDepth id level → level ≤ maxDepth →
      (doc.kind id = .block .document ∨ doc.kind id = .block .blockQuote ∨
        ∃ label, doc.kind id = .block (.footReferenceDefinition label)) →
      c ∈ doc.children id → Dispatched doc maxDepth c (level + 1)
  | inItem {id item c : NodeId} {level : Nat} : Dispatched doc maxDepth id level →
      level ≤ maxDepth → doc.kind id = .block .unorderedList → item ∈ doc.children id →
      doc.kind item = .block .listItem → c ∈ doc.children item →
      Dispatched doc maxDepth c (level + 1)
  | inOrderedList {id item c : NodeId} {level start : Nat} : Dispatched doc maxDepth id level →
      level ≤ maxDepth → doc.kind id = .block (.orderedList start) → item ∈ doc.children id →
      c ∈ doc.children item → Dispatched doc maxDepth c (level + 1)

/-- What is wrong with a node that is dispatched at a level, if anything is. -/
def complaint? (doc : Document) (maxDepth : Nat) (id : NodeId) (level : Nat) :
    Option DiagnosticKind :=
  if maxDepth < level then some .depthExceeded
  else
    match doc.kind id with
    | .inline (.text _) => some .textOutsideBlock
    | .inline _ => some .inlineInBlockPosition
    | .block .listItem => some .listItemOutsideList
    | .block .tableHeader | .block .tableBody | .block .tableRow | .block .tableCell =>
      some .tablePartOutsideTable
    | .block _ => none

/-- The block type of the parent of a node. There is none without a parent or below an inline
node. -/
def parentType? (doc : Document) (id : NodeId) : Option BlockType :=
  match doc.parent? id with
  | none => none
  | some parent =>
    match doc.kind parent with
    | .block b => some b.type
    | .inline _ => none

/-- What is reported of a node that is dispatched at a level. -/
def diagnosis? (doc : Document) (maxDepth : Nat) (dispatch : NodeId × Nat) : Option Diagnostic :=
  (doc.complaint? maxDepth dispatch.1 dispatch.2).map fun kind =>
    ⟨dispatch.1, doc.parentType? dispatch.1, kind⟩

/-- The nodes that are dispatched from a node of a level on, with some levels left, in the order of
the pass. -/
def dispatches (doc : Document) : Nat → Nat → NodeId → List (NodeId × Nat)
  | 0, level, id => [(id, level)]
  | levels + 1, level, id =>
    (id, level) :: (doc.inner id).flatMap (doc.dispatches levels (level + 1))

variable {doc : Document} {maxDepth : Nat}

/-! ## The dispatched nodes -/

theorem kind_of_isListItem {id : NodeId} (h : (doc.kind id).isListItem = true) :
    doc.kind id = .block .listItem := by
  unfold NodeKind.isListItem at h
  split at h
  · assumption
  · cases h

theorem Dispatched.of_mem_inner {id c : NodeId} {level : Nat} (h : doc.Dispatched maxDepth id level)
    (hlevel : level ≤ maxDepth) (hc : c ∈ doc.inner id) :
    doc.Dispatched maxDepth c (level + 1) := by
  unfold inner at hc
  split at hc
  · next hk => exact .child h hlevel (.inl hk) hc
  · next hk => exact .child h hlevel (.inr (.inl hk)) hc
  · next hk => exact .child h hlevel (.inr (.inr ⟨_, hk⟩)) hc
  · next hk =>
    obtain ⟨item, hitem, hc⟩ := List.mem_flatMap.mp hc
    obtain ⟨hitem, hkind⟩ := List.mem_filter.mp hitem
    exact .inItem h hlevel hk hitem (kind_of_isListItem hkind) hc
  · next hk =>
    obtain ⟨item, hitem, hc⟩ := List.mem_flatMap.mp hc
    exact .inOrderedList h hlevel hk hitem hc
  · cases hc

/-- The dispatches are a walk along the inner nodes. -/
theorem dispatches_eq_walk : ∀ levels level : Nat,
    doc.dispatches levels level = walk doc.inner levels level
  | 0, _ => rfl
  | levels + 1, level => by
    funext id
    rw [dispatches, walk, dispatches_eq_walk levels (level + 1)]

/-- All that is dispatched from a dispatched node on is dispatched. -/
theorem dispatched_of_mem_dispatches {levels level : Nat} {id c : NodeId} {l : Nat}
    (hlevels : levels + level = maxDepth + 1) (h : doc.Dispatched maxDepth id level)
    (hmem : (c, l) ∈ doc.dispatches levels level id) : doc.Dispatched maxDepth c l := by
  rw [dispatches_eq_walk] at hmem
  exact walk_induction hlevels h (fun hc hl he => hc.of_mem_inner hl he) hmem

/-- **The list of dispatches holds the dispatched nodes.** -/
theorem mem_dispatches_iff {id : NodeId} {level : Nat} :
    (id, level) ∈ doc.dispatches maxDepth 1 0 ↔ doc.Dispatched maxDepth id level := by
  constructor
  · exact dispatched_of_mem_dispatches rfl .root
  · intro h
    rw [dispatches_eq_walk]
    have hstep : ∀ {id c : NodeId} {level : Nat}, level ≤ maxDepth → c ∈ doc.inner id →
        (id, level) ∈ walk doc.inner maxDepth 1 0 →
          (c, level + 1) ∈ walk doc.inner maxDepth 1 0 :=
      fun hlevel hc hmem => mem_walk_of_mem_next rfl hmem hlevel hc
    induction h with
    | root => exact mem_walk_self doc.inner maxDepth 1 0
    | child _ hlevel hk hc ih =>
      refine hstep hlevel ?_ ih
      rw [inner]
      rcases hk with hk | hk | ⟨label, hk⟩ <;> rw [hk] <;> exact hc
    | inItem _ hlevel hk hitem hkind hc ih =>
      refine hstep hlevel ?_ ih
      rw [inner, hk]
      refine List.mem_flatMap.mpr ⟨_, List.mem_filter.mpr ⟨hitem, ?_⟩, hc⟩
      rw [hkind]
      rfl
    | inOrderedList _ hlevel hk hitem hc ih =>
      refine hstep hlevel ?_ ih
      rw [inner, hk]
      exact List.mem_flatMap.mpr ⟨_, hitem, hc⟩

/-! ## The order of dispatches -/

theorem flatMap_filter {α β : Type} (p : α → Bool) (f : α → List β) : ∀ l : List α,
    (l.filter p).flatMap f = l.flatMap fun a => if p a then f a else []
  | [] => rfl
  | a :: l => by
    rw [List.filter_cons, List.flatMap_cons, ← flatMap_filter p f l]
    split <;> rfl

/-- Nodes below those that a pass goes on to from a node. -/
theorem Placed.flatMap_inner_inStretch {f : NodeId → List NodeId} (hf : doc.StaysBelow f)
    {parent next : Option NodeId} {id : Nat} {t : Tree} (h : doc.Placed parent next id t) :
    InStretch (id + 1) (id + t.size) ((doc.inner id).flatMap f) := by
  unfold inner
  split
  · exact h.flatMap_children_inStretch hf
  · exact h.flatMap_children_inStretch hf
  · exact h.flatMap_children_inStretch hf
  · -- the children that are no items are passed over
    rw [listItems, List.flatMap_assoc, flatMap_filter]
    exact h.flatMap_children_inStretch (hf.children.ite _)
  · rw [List.flatMap_assoc]
    exact h.flatMap_children_inStretch hf.children
  · exact .nil

theorem goesDown_inner : doc.GoesDown doc.inner :=
  fun _ hf _ _ _ _ h => h.flatMap_inner_inStretch hf

/-- **What is dispatched from a node on stands in document order within its stretch.** -/
theorem dispatches_staysBelow (levels level : Nat) :
    doc.StaysBelow fun id => (doc.dispatches levels level id).map Prod.fst := by
  rw [dispatches_eq_walk]
  exact walk_staysBelow goesDown_inner levels level

/-! ## The diagnostics of the dispatched nodes -/

theorem parentType?_eq (id : NodeId) :
    doc.parentType? id = (doc.parent? id).bind fun p => (doc.kind p).blockType? := by
  unfold parentType?
  cases doc.parent? id with
  | none => rfl
  | some p =>
    dsimp only [Option.bind_some]
    cases doc.kind p <;> rfl

/-- Beyond the limit just this is reported. -/
theorem diagnosis?_of_lt {id : NodeId} {level : Nat} (h : maxDepth < level) :
    doc.diagnosis? maxDepth (id, level) = some (.of doc id .depthExceeded) := by
  rw [diagnosis?, complaint?, if_pos h, Option.map_some, parentType?_eq]
  rfl

/-- Within the limit the default rule reports what is wrong. -/
theorem toList_diagnosis?_of_le {id : NodeId} {level : Nat} (h : level ≤ maxDepth) :
    (doc.diagnosis? maxDepth (id, level)).toList = doc.misplaced id := by
  rw [diagnosis?, complaint?, if_neg (Nat.not_lt_of_le h), parentType?_eq, misplaced]
  cases doc.kind id with
  | block b => cases b <;> rfl
  | inline i => cases i <;> rfl

theorem diagnostics_eq_filterMap : ∀ {levels level : Nat}, levels + level = maxDepth + 1 →
    ∀ id : NodeId, doc.diagnostics levels id =
      (doc.dispatches levels level id).filterMap (doc.diagnosis? maxDepth)
  | 0, level, hlevels, id => by
    rw [diagnostics, dispatches, List.filterMap_cons, diagnosis?_of_lt (by omega)]
    rfl
  | levels + 1, level, hlevels, id => by
    have hinner : doc.diagnostics levels = fun c =>
        (doc.dispatches levels (level + 1) c).filterMap (doc.diagnosis? maxDepth) :=
      funext (diagnostics_eq_filterMap (by omega))
    have hself : [(id, level)].filterMap (doc.diagnosis? maxDepth) = doc.misplaced id := by
      have hlevel : level ≤ maxDepth := by omega
      rw [← toList_diagnosis?_of_le hlevel]
      cases h : doc.diagnosis? maxDepth (id, level) <;> simp [h]
    rw [diagnostics, dispatches, ← List.singleton_append, List.filterMap_append, hself,
      List.filterMap_flatMap, hinner]

end Document

/-- **What a pass without a composer reports.** There is a list of the dispatched nodes with their
levels in which every node stands once at most, in document order. The diagnostics are, in this
order, those of the nodes that are dispatched beyond the limit or are misplaced. -/
theorem diagnostics_of_dispatched {σ : Type} [Sink σ] (operations : List Builder.Operation)
    (maxDepth : Nat) (sink : σ) :
    let doc := (Builder.run operations).document
    ∃ dispatches : List (NodeId × Nat),
      (∀ id level, (id, level) ∈ dispatches ↔ doc.Dispatched maxDepth id level) ∧
      (dispatches.map Prod.fst).Pairwise (· < ·) ∧
      (Pass.run ⟨doc, .none⟩ maxDepth (some 0) sink).diagnostics.reverse =
        dispatches.filterMap (doc.diagnosis? maxDepth) := by
  intro doc
  have hplaced : doc.Placed none none 0 doc.tree := by
    have hdoc : doc = doc.tree.document := Builder.document_run operations
    have hplaced := doc.tree.placed_document
    rwa [← hdoc] at hplaced
  refine ⟨doc.dispatches maxDepth 1 0, fun _ _ => Document.mem_dispatches_iff, ?_, ?_⟩
  · exact (Document.dispatches_staysBelow maxDepth 1 hplaced).pairwise
  · rw [Pass.run_none, ← Document.diagnostics_eq_filterMap rfl]
    simp [Pass.extend]

end MarkdownTree
