import MarkdownTree.Log
import MarkdownTree.Proofs.Assembly.Contribution
import MarkdownTree.Proofs.Assembly.Definitions

/-!
# Rendering clean documents

On a clean tree a pass without a composer reports nothing but its limit, and not even that if the
tree is not nested too deeply. The layout builder, the span collector and the table gatherer have
nothing to log either. The documents that are assembled from events of the block grammar are clean,
whatever definitions there are.

* `LoggedBuilder` — a layout builder that keeps what the collector and the gatherer log.
* `Holds.kind_of_mem_diagnostics`, `Holds.diagnostics_eq_nil_iff` — the diagnostics of a clean tree.
* `Holds.silent_calls` — the calls of a clean tree leave no log.
* `render_assemble_clean` — all of this for assembled documents.
-/

namespace MarkdownTree

/-! ## The log of a pass -/

/-- A layout builder and what is logged by the collector and the gatherer on the way. -/
structure LoggedBuilder where
  builder : LayoutBuilder := {}
  events : List LogEvent := []
deriving Repr, Inhabited

namespace LoggedBuilder

instance : Sink LoggedBuilder :=
  ⟨fun doc b call => ⟨b.builder.emit doc call, b.events ++ call.events doc⟩⟩

/-- The whole log, with the warnings of the finished builder. -/
def log (b : LoggedBuilder) : List LogEvent :=
  b.events ++ b.builder.finish.warnings.map (·.event)

theorem foldl_emit (doc : Document) : ∀ (calls : List Call) (b : LoggedBuilder),
    calls.foldl (Sink.emit doc) b =
      ⟨calls.foldl (LayoutBuilder.emit doc) b.builder, b.events ++ calls.flatMap (·.events doc)⟩
  | [], b => by simp
  | call :: calls, b => by
    rw [List.foldl_cons, foldl_emit doc calls, List.foldl_cons, List.flatMap_cons,
      ← List.append_assoc]
    rfl

end LoggedBuilder

/-- The log of a pass over a document. -/
def Document.renderLog (doc : Document) (composer : Composer) (maxDepth : Nat) : List LogEvent :=
  (Pass.run ⟨doc, composer⟩ maxDepth (some 0) ({} : LoggedBuilder)).sink.log

namespace Document

variable {doc : Document} {id : NodeId} {t : Tree}

/-! ## Diagnostics -/

namespace Holds

/-- The nodes that a pass goes on to hold the trees that it goes on to. -/
theorem inner (h : doc.Holds id t) : List.Forall₂ doc.Holds (doc.inner id) t.inner := by
  rw [Document.inner, Tree.inner, h.kind_eq]
  cases t.kind with
  | inline i => exact .nil
  | block b =>
    cases b with
    | document => exact h.children
    | blockQuote => exact h.children
    | footReferenceDefinition label => exact h.children
    | unorderedList =>
      have hitems : List.Forall₂ doc.Holds (doc.listItems id)
          (t.children.filter fun c => c.kind.isListItem) :=
        filter_of_forall₂ h.children fun c u hcu => by rw [hcu.kind_eq]
      exact List.rel_flatMap hitems fun c u hcu => hcu.children
    | orderedList start => exact List.rel_flatMap h.children fun c u hcu => hcu.children
    | _ => exact .nil

theorem misplaced_eq_nil (h : doc.Holds id t) (hclean : t.clean = true) :
    doc.misplaced id = [] := by
  rw [misplaced, h.kind_eq]
  obtain ⟨k, cs⟩ := t
  cases k with
  | inline i => cases hclean
  | block b =>
    cases b with
    | listItem => cases hclean
    | tableHeader => cases hclean
    | tableBody => cases hclean
    | tableRow => cases hclean
    | tableCell => cases hclean
    | _ => rfl

/-- **On a clean tree only the limit of nesting is reported.** -/
theorem kind_of_mem_diagnostics : ∀ (levels : Nat) {id : NodeId} {t : Tree}, doc.Holds id t →
    t.clean = true → ∀ d ∈ doc.diagnostics levels id, d.kind = .depthExceeded
  | 0, id, t, _, _ => by
    intro d hd
    rw [List.mem_singleton.mp hd]
    rfl
  | levels + 1, id, t, h, hclean => by
    intro d hd
    rw [diagnostics, h.misplaced_eq_nil hclean, List.nil_append] at hd
    obtain ⟨c, hc, hd⟩ := List.mem_flatMap.mp hd
    obtain ⟨u, hu, hcu⟩ := exists_mem_of_forall₂ h.inner hc
    exact kind_of_mem_diagnostics levels hcu (Tree.clean_of_mem_inner hclean u hu) d hd

/-- **On a clean tree nothing is reported exactly if the levels exceed the nesting.** -/
theorem diagnostics_eq_nil_iff : ∀ (levels : Nat) {id : NodeId} {t : Tree}, doc.Holds id t →
    t.clean = true → (doc.diagnostics levels id = [] ↔ t.nesting < levels)
  | 0, id, t, _, _ => by simp [diagnostics]
  | levels + 1, id, t, h, hclean => by
    rw [diagnostics, h.misplaced_eq_nil hclean, List.nil_append, List.flatMap_eq_nil_iff,
      Nat.lt_succ_iff, Tree.nesting_le_iff hclean]
    refine forall_mem_iff_of_forall₂ h.inner fun c u hu hcu => ?_
    exact diagnostics_eq_nil_iff levels hcu (Tree.clean_of_mem_inner hclean u hu)

/-! ## Logs -/

theorem spanEvents_eq_nil (h : doc.Holds id t) (hinline : Tree.allInline t.children = true) :
    doc.spanEvents id = [] := by
  rw [spanEvents, h.skippedBlocks_eq_nil hinline]
  rfl

/-- **A table of a tabular tree leaves no log.** -/
theorem events_table_eq_nil (h : doc.Holds id t) (htabular : t.tabular = true) :
    (Call.table id).events doc = [] := by
  rw [Call.events, h.skips_eq_nil htabular, List.map_nil]

end Holds

/-- Whether calls leave no log. -/
def Silent (doc : Document) (calls : List Call) : Prop :=
  ∀ call ∈ calls, call.events doc = []

namespace Silent

theorem append {calls calls' : List Call} (h : doc.Silent calls) (h' : doc.Silent calls') :
    doc.Silent (calls ++ calls') := by
  intro call hcall
  rcases List.mem_append.mp hcall with hcall | hcall
  · exact h call hcall
  · exact h' call hcall

theorem cons {call : Call} {calls : List Call} (h : call.events doc = [])
    (h' : doc.Silent calls) : doc.Silent (call :: calls) :=
  List.forall_mem_cons.mpr ⟨h, h'⟩

theorem nil : doc.Silent [] :=
  fun _ h => nomatch h

theorem flatMap {calls : NodeId → List Call} {ids : List NodeId}
    (h : ∀ c ∈ ids, doc.Silent (calls c)) : doc.Silent (ids.flatMap calls) := by
  intro call hcall
  obtain ⟨c, hc, hcall⟩ := List.mem_flatMap.mp hcall
  exact h c hc call hcall

theorem itemCalls {visit : NodeId → List Call} : ∀ {ids : List NodeId} (index : Nat),
    (∀ c ∈ ids.flatMap doc.children, doc.Silent (visit c)) →
      doc.Silent (doc.itemCalls visit index ids)
  | [], _, _ => nil
  | item :: ids, index, h => by
    rw [List.flatMap_cons, List.forall_mem_append] at h
    have hbody : doc.Silent (doc.itemBody visit item) := by
      unfold itemBody
      split
      · exact cons rfl nil
      · exact flatMap h.1
    exact cons rfl (hbody.append (cons rfl (itemCalls (index + 1) h.2)))

theorem listCalls {visit : NodeId → List Call} {ids : List NodeId} (kind : ListKind) (start : Int)
    (h : ∀ c ∈ ids.flatMap doc.children, doc.Silent (visit c)) :
    doc.Silent (doc.listCalls visit kind start ids) :=
  cons rfl ((itemCalls 0 h).append (cons rfl nil))

end Silent

/-- **The calls of a clean tree leave no log.** -/
theorem Holds.silent_calls : ∀ (levels : Nat) {id : NodeId} {t : Tree}, doc.Holds id t →
    t.clean = true → doc.Silent (doc.calls levels id)
  | 0, id, t, _, _ => .nil
  | levels + 1, id, .node (.inline i) cs, _, hclean => by simp [Tree.clean] at hclean
  | levels + 1, id, .node (.block b) cs, h, hclean => by
    have hinner : ∀ c ∈ doc.inner id, doc.Silent (doc.calls levels c) := by
      intro c hc
      obtain ⟨u, hu, hcu⟩ := exists_mem_of_forall₂ h.inner hc
      exact hcu.silent_calls levels (Tree.clean_of_mem_inner hclean u hu)
    rw [Document.inner, h.kind_eq] at hinner
    rw [calls, h.kind_eq]
    cases b with
    | document => exact .flatMap hinner
    | blockQuote => exact .cons rfl ((Silent.flatMap hinner).append (.cons rfl .nil))
    | footReferenceDefinition label => exact .cons rfl (.flatMap hinner)
    | unorderedList => exact .listCalls _ _ hinner
    | orderedList start => exact .listCalls _ _ hinner
    | heading level => exact .cons rfl (.cons (h.spanEvents_eq_nil hclean) (.cons rfl .nil))
    | paragraph fadeOut => exact .cons (h.spanEvents_eq_nil hclean) .nil
    | tableRoot alignments => exact .cons (h.events_table_eq_nil hclean) .nil
    | thematicBreak => exact .cons rfl .nil
    | indentedCodeBlock literal => exact .cons rfl .nil
    | fencedCodeBlock info literal => exact .cons rfl .nil
    | htmlBlock literal => exact .cons rfl .nil
    | footDefinition label => exact .cons rfl .nil
    | linkReferenceDefinition label destination title => exact .nil
    | listItem => cases hclean
    | tableHeader => cases hclean
    | tableBody => cases hclean
    | tableRow => cases hclean
    | tableCell => cases hclean

/-- **A pass over a clean document leaves no log.** -/
theorem Holds.renderLog_eq_nil (h : doc.Holds 0 t) (hclean : t.clean = true) (maxDepth : Nat) :
    doc.renderLog .none maxDepth = [] := by
  have hevents : (doc.calls maxDepth 0).flatMap (·.events doc) = [] :=
    List.flatMap_eq_nil_iff.mpr (h.silent_calls maxDepth hclean)
  have hcalls := (h.parses_calls maxDepth).ofCalls
  rw [LayoutBuilder.ofCalls] at hcalls
  rw [renderLog, Pass.run_none, Pass.extend, LoggedBuilder.foldl_emit, hevents, LoggedBuilder.log,
    hcalls]
  rfl

theorem Holds.tree_eq (h : doc.Holds 0 t) : doc.tree = t :=
  h.shows.treeAt_eq h.height_le

end Document

/-- **Documents that are assembled from the block grammar are clean for the renderer.** With any
definitions, marked or not, nothing but the limit of nesting is reported, and that only if the
blocks are nested as deeply as the limit. The layout builder repairs nothing, and no node is left
out of the spans or the tables. -/
theorem render_assemble_clean (forest : List EventTree) (h : EventTree.allBlocks forest = true)
    (definitions : List Definition) (fadeOut : Bool) (maxDepth : Nat) :
    let doc := Document.assemble (EventTree.eventsAll forest) definitions fadeOut
    (∀ d ∈ (doc.render .none maxDepth).diagnostics, d.kind = .depthExceeded) ∧
      ((doc.render .none maxDepth).diagnostics = [] ↔ doc.tree.nesting < maxDepth) ∧
      doc.renderLog .none maxDepth = [] := by
  intro doc
  obtain ⟨t, hholds, henriches⟩ :=
    Document.assemble_enriches (EventTree.wellNestedAll_of_allBlocks h) definitions fadeOut
  have hclean : t.clean = true := henriches.clean (clean_translate h).1
  have hrender := hholds.render_eq maxDepth
  rw [hrender, hholds.tree_eq]
  exact ⟨hholds.kind_of_mem_diagnostics maxDepth hclean,
    hholds.diagnostics_eq_nil_iff maxDepth hclean, hholds.renderLog_eq_nil hclean maxDepth⟩

/-- A tight item with a definition behind its text, and a paragraph inside it that is marked. Its
blocks are two levels below the document. -/
theorem render_assemble_clean_tight_item :
    let at0 : SourceRange := ⟨0, 0⟩
    let forest : List EventTree :=
      [.element (.list none) at0 ⟨9, 40⟩
        [.element .item at0 ⟨3, 20⟩
          [.leaf (.text "a") at0, .element .paragraph ⟨7, 8⟩ at0 [.leaf (.code "b") at0]]],
        .element (.table []) at0 at0
          [.element .tableHead at0 at0 [.element .tableCell at0 at0 [.leaf .softBreak at0]]]]
    let doc := Document.assemble (EventTree.eventsAll forest) [⟨"x", "/u", none, 5⟩] true
    EventTree.allBlocks forest = true ∧ doc.tree.nesting = 2 ∧
      (doc.render .none 3).diagnostics = [] ∧ (doc.render .none 2).diagnostics ≠ [] ∧
      doc.renderLog .none 3 = [] := by
  intro at0 forest doc
  have hforest : EventTree.allBlocks forest = true := rfl
  have hnesting : doc.tree.nesting = 2 := by
    have hbegin : Assembly.begin [⟨"x", "/u", none, 5⟩] = ⟨.new, [], [⟨"x", "/u", none, 5⟩]⟩ := by
      simp [Assembly.begin]
    simp only [doc, Document.assemble, hbegin]
    decide +kernel
  have hthree := render_assemble_clean forest hforest [⟨"x", "/u", none, 5⟩] true 3
  have htwo := render_assemble_clean forest hforest [⟨"x", "/u", none, 5⟩] true 2
  refine ⟨hforest, hnesting, hthree.2.1.mpr ?_, fun hnil => ?_, hthree.2.2⟩
  · show doc.tree.nesting < 3
    omega
  · have hlt : doc.tree.nesting < 2 := htwo.2.1.mp hnil
    omega

end MarkdownTree
