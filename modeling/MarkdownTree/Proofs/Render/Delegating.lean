import MarkdownTree.Proofs.Render.Bracketed
import MarkdownTree.Proofs.Render.Dispatch
import MarkdownTree.Proofs.Render.Trace

/-!
# Composers that delegate

A composer that claims some block types and leaves the claimed nodes to the default rules changes
nothing: at a claimed node happens what happens there without a composer, on the same level. It only
gets to see the nodes. These are the nodes of the claimed types that come up for rendering without a
composer, in document order.

* `filterMap_render?_ruleTasks` — a default rule goes on to the inner nodes.
* `filterMap_rendered?_trace` — without a composer, the nodes that are rendered are a walk.
* `not_mem_items_of_mem_walk` — the items of a list are not among them.
* `trace_delegating` — a composer that delegates has the same trace as none.
* `run_delegating` — what a pass with such a composer puts out, and what the composer sees.
-/

namespace MarkdownTree

/-- The composer that claims some block types and leaves them to the default rules. -/
def Composer.delegating (claims : BlockType → Bool) : Composer :=
  .claiming claims [.default]

/-! ## Where the default rules go on -/

/-- The node that a task renders. -/
def Task.render? : Task → Option NodeId
  | .render id => some id
  | _ => none

namespace Document

variable {doc : Document}

theorem filterMap_render?_map (ids : List NodeId) :
    (ids.map Task.render).filterMap Task.render? = ids := by
  induction ids with
  | nil => rfl
  | cons id ids ih => rw [List.map_cons, List.filterMap_cons, ih]; rfl

theorem filterMap_render?_itemBodyTasks (id : NodeId) :
    (doc.itemBodyTasks id).filterMap Task.render? = doc.children id := by
  rw [itemBodyTasks]
  cases doc.children id with
  | nil => rfl
  | cons child children => exact filterMap_render?_map _

theorem filterMap_render?_itemTasks : ∀ (ids : List NodeId) (index : Nat),
    (doc.itemTasks index ids).filterMap Task.render? = ids.flatMap doc.children
  | [], _ => rfl
  | id :: ids, index => by
    rw [itemTasks, List.filterMap_cons, List.filterMap_append, List.filterMap_cons,
      filterMap_render?_itemBodyTasks, filterMap_render?_itemTasks ids, List.flatMap_cons]
    rfl

theorem filterMap_render?_listTasks (kind : ListKind) (start : Int) (items : List NodeId) :
    (doc.listTasks kind start items).filterMap Task.render? = items.flatMap doc.children := by
  rw [listTasks, List.filterMap_cons, List.filterMap_append, filterMap_render?_itemTasks]
  simp [Task.render?]

/-- A default rule goes on to the inner nodes. -/
theorem filterMap_render?_ruleTasks (id : NodeId) :
    (doc.ruleTasks id).filterMap Task.render? = doc.inner id := by
  rw [ruleTasks, inner]
  cases doc.kind id with
  | block b =>
    cases b with
    | document => exact filterMap_render?_map _
    | blockQuote =>
      show ((doc.children id).map Task.render ++ [Task.emit .quoteEnd]).filterMap Task.render? = _
      rw [List.filterMap_append, filterMap_render?_map]
      exact List.append_nil _
    | unorderedList => exact filterMap_render?_listTasks _ _ _
    | orderedList start => exact filterMap_render?_listTasks _ _ _
    | footReferenceDefinition label => exact filterMap_render?_map _
    | _ => rfl
  | inline i => cases i <;> rfl

end Document

/-- The nodes that are rendered in some tasks. -/
theorem filterMap_rendered?_flatMap_trace (visit : NodeId → List Observation) :
    ∀ tasks : List Task, (tasks.flatMap (Task.trace visit)).filterMap Observation.rendered? =
      (tasks.filterMap Task.render?).flatMap fun id =>
        (visit id).filterMap Observation.rendered?
  | [] => rfl
  | t :: ts => by
    rw [List.flatMap_cons, List.filterMap_append, filterMap_rendered?_flatMap_trace visit ts,
      List.filterMap_cons]
    cases t <;> simp [Task.render?, Task.trace, Observation.rendered?]

/-- **Without a composer, the nodes that are rendered are a walk along the inner nodes.** -/
theorem filterMap_rendered?_trace (doc : Document) : ∀ (levels level : Nat) (id : NodeId),
    (PassSetup.trace ⟨doc, .none⟩ levels level id).filterMap Observation.rendered? =
      Document.walk doc.inner levels level id
  | 0, _, _ => rfl
  | levels + 1, level, id => by
    have hinner : (doc.ruleTrace (PassSetup.trace ⟨doc, .none⟩ levels (level + 1)) id).filterMap
        Observation.rendered? =
          (doc.inner id).flatMap (Document.walk doc.inner levels (level + 1)) := by
      rw [Document.ruleTrace, filterMap_rendered?_flatMap_trace,
        Document.filterMap_render?_ruleTasks]
      simp only [filterMap_rendered?_trace doc levels (level + 1)]
    rw [PassSetup.trace, inside_none, Document.walk, ← hinner]
    simp [Observation.rendered?]

/-! ## Items of lists -/

namespace Document

variable {doc : Document}

theorem mem_children_of_mem_items {id item : NodeId} {kind : ListKind} {start : Int}
    {items : List NodeId} (hlisting : doc.listing? id = some (kind, start, items))
    (hitem : item ∈ items) : item ∈ doc.children id := by
  rw [listing?] at hlisting
  split at hlisting
  · cases hlisting
    exact (List.mem_filter.mp hitem).1
  · cases hlisting
    exact hitem
  · cases hlisting

/-- A pass goes on to the children of a node, or to those of the items of a list. -/
theorem mem_inner_cases {id c : NodeId} (h : c ∈ doc.inner id) :
    (doc.listing? id = none ∧ c ∈ doc.children id) ∨
      ∃ kind start items item, doc.listing? id = some (kind, start, items) ∧ item ∈ items ∧
        c ∈ doc.children item := by
  unfold inner at h
  unfold listing?
  split at h
  · next hk => exact .inl ⟨by rw [hk], h⟩
  · next hk => exact .inl ⟨by rw [hk], h⟩
  · next hk => exact .inl ⟨by rw [hk], h⟩
  · next hk =>
    obtain ⟨item, hitem, hc⟩ := List.mem_flatMap.mp h
    exact .inr ⟨_, _, _, item, by rw [hk], hitem, hc⟩
  · next hk =>
    obtain ⟨item, hitem, hc⟩ := List.mem_flatMap.mp h
    exact .inr ⟨_, _, _, item, by rw [hk], hitem, hc⟩
  · cases h

theorem inner_eq_nil {id : NodeId} (h : doc.children id = []) : doc.inner id = [] := by
  rw [inner]
  split <;> simp [listItems, h]

theorem Ordered.lt_of_mem_inner (hdoc : doc.Ordered) {id c : NodeId} (h : c ∈ doc.inner id) :
    id < c := by
  rcases mem_inner_cases h with ⟨-, hc⟩ | ⟨kind, start, items, item, hlisting, hitem, hc⟩
  · exact hdoc.lt_of_mem_children hc
  · have hitem := hdoc.lt_of_mem_children (mem_children_of_mem_items hlisting hitem)
    exact Nat.lt_trans hitem (hdoc.lt_of_mem_children hc)

/-- Nothing in front of its first node is visited by a walk along the inner nodes. -/
theorem Ordered.le_of_mem_walk (hdoc : doc.Ordered) {maxDepth id c level : Nat}
    (h : (c, level) ∈ walk doc.inner maxDepth 1 id) : id ≤ c := by
  let P (c : NodeId) (_ : Nat) : Prop := id ≤ c
  have hnext : ∀ {c e : NodeId} {l : Nat}, P c l → l ≤ maxDepth → e ∈ doc.inner c → P e (l + 1) :=
    fun hc _ he => Nat.le_trans hc (Nat.le_of_lt (hdoc.lt_of_mem_inner he))
  have hfirst : P id 1 := Nat.le_refl id
  exact walk_induction (P := P) rfl hfirst hnext h

/-- **The items of a list that is dispatched are not dispatched themselves.** -/
theorem Ordered.not_mem_items_of_mem_walk (hdoc : doc.Ordered) {maxDepth start : Nat} :
    ∀ {item level list k : Nat} {kind : ListKind} {index : Int} {items : List NodeId},
      (item, level) ∈ walk doc.inner maxDepth 1 start →
      (list, k) ∈ walk doc.inner maxDepth 1 start →
      doc.listing? list = some (kind, index, items) → item ∉ items := by
  intro item
  induction item using Nat.strongRecOn with
  | ind item ih =>
    intro level list k kind index items hmem hlist hlisting hitem
    have hchild := mem_children_of_mem_items hlisting hitem
    have hlt := hdoc.lt_of_mem_children hchild
    rcases (mem_walk_iff rfl).mp hmem with ⟨rfl, -⟩ | ⟨above, l, habove, -, hinner, -⟩
    · -- nothing in front of the first node is visited
      exact absurd hlt (Nat.not_lt_of_le (hdoc.le_of_mem_walk hlist))
    · rcases mem_inner_cases hinner with ⟨hnone, hc⟩ | ⟨kind', index', items', item', h', hmem', hc⟩
      · -- the parent is the list, which does not go on to its children
        rw [hdoc.eq_of_mem_children hc hchild, hlisting] at hnone
        cases hnone
      · -- the list is an item of another list
        obtain rfl := hdoc.eq_of_mem_children hc hchild
        exact ih item' hlt hlist habove h' hmem'

end Document

/-! ## The pass -/

theorem Composer.uncounting_delegating (claims : BlockType → Bool) :
    (delegating claims).Uncounting :=
  uncounting_claiming claims (by decide)

theorem claim?_delegating (doc : Document) (claims : BlockType → Bool) (id : NodeId) :
    Pass.claim? ⟨doc, .delegating claims⟩ id =
      if doc.hasType claims id then some [.default] else none :=
  claim?_claiming doc claims [.default] id

/-- **A composer that delegates has the same trace as none.** -/
theorem trace_delegating (doc : Document) (claims : BlockType → Bool) : ∀ levels level : Nat,
    PassSetup.trace ⟨doc, .delegating claims⟩ levels level =
      PassSetup.trace ⟨doc, .none⟩ levels level
  | 0, _ => rfl
  | levels + 1, level => by
    funext id
    have hinside : ∀ visit : NodeId → List Observation,
        PassSetup.inside ⟨doc, .delegating claims⟩ visit level id = doc.ruleTrace visit id := by
      intro visit
      by_cases hclaimed : doc.hasType claims id = true
      · rw [Composer.delegating, inside_claiming_of_hasType hclaimed]
        simp [Document.actionTrace, Task.ofAction, Document.taskTrace]
      · rw [Composer.delegating, inside_claiming_of_not_hasType hclaimed]
    rw [PassSetup.trace, PassSetup.trace, inside_none, trace_delegating doc claims levels, hinside]

theorem passTrace_delegating (doc : Document) (claims : BlockType → Bool) (maxDepth : Nat)
    (start : Option NodeId) :
    PassSetup.passTrace ⟨doc, .delegating claims⟩ maxDepth start =
      PassSetup.passTrace ⟨doc, .none⟩ maxDepth start := by
  rw [PassSetup.passTrace, PassSetup.passTrace, trace_delegating]

theorem filterMap_rendered?_passTrace (doc : Document) (maxDepth : Nat) (start : Option NodeId) :
    (PassSetup.passTrace ⟨doc, .none⟩ maxDepth start).filterMap Observation.rendered? =
      start.toList.flatMap (Document.walk doc.inner maxDepth 1) := by
  rw [PassSetup.passTrace, List.filterMap_flatMap]
  simp only [filterMap_rendered?_trace]

/-- The nodes that a pass without a composer comes to render. -/
theorem reaches_none_iff {σ : Type} [Sink σ] {doc : Document} {maxDepth : Nat}
    {start : Option NodeId} {sink : σ} {id : NodeId} {level : Nat} :
    (Agenda.begin start sink).Reaches ⟨doc, .none⟩ maxDepth id level ↔
      ∃ first ∈ start, (id, level) ∈ Document.walk doc.inner maxDepth 1 first := by
  let plain : PassSetup := ⟨doc, .none⟩
  have hplain : plain.composer.Uncounting := Composer.uncounting_none
  have hruns := runs_run hplain maxDepth start sink
  rw [← hruns.mem_rendered_iff rfl, filterMap_rendered?_passTrace, List.mem_flatMap]
  simp only [Option.mem_toList, Option.mem_def]

/-- Without a composer, nodes are rendered in document order. -/
theorem pairwise_rendered (t : Tree) (maxDepth : Nat) (start : Option NodeId) :
    (((PassSetup.passTrace ⟨t.document, .none⟩ maxDepth start).filterMap
      Observation.rendered?).map Prod.fst).Pairwise (· < ·) := by
  rw [filterMap_rendered?_passTrace]
  cases start with
  | none => exact .nil
  | some first =>
    rw [Option.toList_some, List.flatMap_singleton]
    exact Document.pairwise_walk Document.goesDown_inner (fun _ => Document.inner_eq_nil) _ _ _

/-- **A composer that delegates is transparent.** Whatever block types it claims, a pass with it
makes the calls and the reports of a pass without a composer. The composer is given nodes in
document order, each of them once at most: those of a claimed type that the pass without a composer
comes to render within its limit, on the same level. It is not given the items of a list that is
rendered by its default rule, for neither pass comes to render those. -/
theorem run_delegating {σ : Type} [Sink σ] (operations : List Builder.Operation)
    (claims : BlockType → Bool) (maxDepth : Nat) (start : Option NodeId) (sink : σ) :
    let doc := (Builder.run operations).document
    let plain : PassSetup := ⟨doc, .none⟩
    let delegating : PassSetup := ⟨doc, .delegating claims⟩
    let p := Pass.run plain maxDepth start sink
    let q := Pass.run delegating maxDepth start sink
    q.sink = p.sink ∧ q.diagnostics = p.diagnostics ∧
      (q.visits.reverse.map Prod.fst).Pairwise (· < ·) ∧
      (∀ id level, (id, level) ∈ q.visits ↔
        (Agenda.begin start sink).Reaches plain maxDepth id level ∧ level ≤ maxDepth ∧
          doc.hasType claims id) ∧
      (∀ list level kind startIndex items,
        (Agenda.begin start sink).Reaches plain maxDepth list level →
        doc.listing? list = some (kind, startIndex, items) → ∀ item ∈ items, ∀ l,
          ¬ (Agenda.begin start sink).Reaches plain maxDepth item l ∧ (item, l) ∉ q.visits) := by
  intro doc plain delegating p q
  have hplain : plain.composer.Uncounting := Composer.uncounting_none
  have hdelegating : delegating.composer.Uncounting := Composer.uncounting_delegating claims
  have htrace := passTrace_delegating doc claims maxDepth start
  have hvisits : ∀ id level, (id, level) ∈ q.visits ↔
      (Agenda.begin start sink).Reaches plain maxDepth id level ∧ level ≤ maxDepth ∧
        doc.hasType claims id := by
    intro id level
    have hruns := runs_run hplain maxDepth start sink
    rw [← List.mem_reverse, Pass.visits_run hdelegating, PassSetup.mem_visits_iff, htrace,
      hruns.mem_enter_iff rfl, claim?_delegating, and_assoc]
    simp
  have hsink : q.sink = p.sink := by
    have hp := Pass.sink_run hplain maxDepth start sink
    have hq := Pass.sink_run hdelegating maxDepth start sink
    rw [htrace] at hq
    exact hq.trans hp.symm
  have hdiagnostics : q.diagnostics = p.diagnostics := by
    have hp := Pass.diagnostics_run hplain maxDepth start sink
    have hq := Pass.diagnostics_run hdelegating maxDepth start sink
    rw [htrace] at hq
    exact List.reverse_inj.mp (hq.trans hp.symm)
  refine ⟨hsink, hdiagnostics, ?_, hvisits, ?_⟩
  · have hrendered := pairwise_rendered doc.tree maxDepth start
    have htree : doc = doc.tree.document := Builder.document_run operations
    rw [← htree] at hrendered
    rw [Pass.visits_run hdelegating, htrace]
    exact hrendered.sublist ((delegating.visits_sublist _).map Prod.fst)
  · intro list level kind startIndex items hlist hlisting item hitem l
    have hnot : ¬ (Agenda.begin start sink).Reaches plain maxDepth item l := by
      rw [reaches_none_iff] at hlist ⊢
      rintro ⟨first, hfirst, hmem⟩
      obtain ⟨first', hfirst', hlist⟩ := hlist
      obtain rfl := Option.mem_unique hfirst hfirst'
      have hdoc : doc.Ordered := Builder.ordered_run operations
      exact hdoc.not_mem_items_of_mem_walk hmem hlist hlisting hitem
    refine ⟨hnot, fun hmem => ?_⟩
    rw [hvisits] at hmem
    exact hnot hmem.1

/-- A list in a list, with a composer that delegates lists and paragraphs. It is given the two lists
and the paragraph, two levels apart; the items do not come up. -/
theorem run_delegating_list_in_list :
    let operations : List Builder.Operation := [.openNode (.block .unorderedList),
      .openNode (.block .listItem), .openNode (.block (.orderedList 4)),
      .openNode (.block .listItem), .leaf (.block (.paragraph false))]
    let doc := (Builder.run operations).document
    let claims : BlockType → Bool := fun type =>
      type = .unorderedList || type = .orderedList || type = .paragraph
    let begin : Agenda Recording := .begin (some 0) {}
    let q := Pass.run ⟨doc, .delegating claims⟩ 4 (some 0) ({} : Recording)
    q.sink = (Pass.run ⟨doc, .none⟩ 4 (some 0) ({} : Recording)).sink ∧
      q.visits.reverse = [(1, 2), (3, 3), (5, 4)] ∧
      begin.Reaches ⟨doc, .none⟩ 4 3 3 ∧ doc.listing? 3 = some (.ordered, 3, [4]) ∧
      ¬ begin.Reaches ⟨doc, .none⟩ 4 4 4 ∧ (4, 4) ∉ q.visits := by
  intro operations doc claims begin q
  obtain ⟨hsink, -, -, hvisits, hitems⟩ :=
    run_delegating operations claims 4 (some 0) ({} : Recording)
  have hq : q.visits.reverse = [(1, 2), (3, 3), (5, 4)] := by decide +kernel
  have hlist : (3, 3) ∈ q.visits := by
    rw [← List.mem_reverse, hq]
    decide
  have hreaches := ((hvisits 3 3).mp hlist).1
  have hlisting : doc.listing? 3 = some (.ordered, 3, [4]) := by decide +kernel
  have hitem := hitems 3 3 _ _ _ hreaches hlisting 4 List.mem_cons_self 4
  exact ⟨hsink, hq, hreaches, hlisting, hitem.1, hitem.2⟩

end MarkdownTree
