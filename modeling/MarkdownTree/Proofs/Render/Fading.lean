import MarkdownTree.Proofs.Assembly.Inserted
import MarkdownTree.Proofs.Layout.Denotation
import MarkdownTree.Proofs.Layout.Faded
import MarkdownTree.Proofs.Render.Dispatch
import MarkdownTree.Proofs.Render.Recorded

/-!
# Fading out a paragraph

A mark on a paragraph is passed through: it changes the call that shows the paragraph, if there is
one, and the text block that this call stands for. Everything else that is computed from the
document depends on its links and on its other kinds.

* `Document.FadesAt` — a document and the same with one paragraph faded out.
* `FadesAt.spans_eq`, `FadesAt.table_eq`, `FadesAt.diagnostics_eq` — what the mark does not change.
* `FadesAt.calls_eq` — what it does to the calls of a pass.
* `pairwise_sources_calls` — a pass shows the content of a node once at most.
* `assemble_fades_last_paragraph` — the option of fading out marks the last paragraph and does
  nothing else.
-/

namespace MarkdownTree

/-! ## Documents -/

namespace Document

/-- Whether a document is the other one with one paragraph faded out. -/
structure FadesAt (doc' doc : Document) (last : NodeId) : Prop extends doc'.Marks doc where
  parent?_eq : ∀ id, doc'.parent? id = doc.parent? id
  kind_eq : ∀ id, id ≠ last → doc'.kind id = doc.kind id
  kind_last : doc.kind last = .block (.paragraph false)
  kind_last' : doc'.kind last = .block (.paragraph true)

theorem fadesAt_setKind {doc : Document} {last : NodeId}
    (h : doc.kind last = .block (.paragraph false)) :
    (doc.setKind last (.block (.paragraph true))).FadesAt doc last where
  toMarks := marks_setKind (by rw [h]; rfl)
  parent?_eq := doc.bind_get?_setKind last _ fun _ => rfl
  kind_eq id hid := by
    rw [kind, kind, get?_setKind]
    cases doc.get? id with
    | none => rfl
    | some n => simp [Ne.symm hid]
  kind_last := h
  kind_last' := by
    rw [kind, get?_setKind]
    rw [kind] at h
    cases hget : doc.get? last with
    | none =>
      rw [hget] at h
      cases h
    | some n => simp

namespace FadesAt

variable {doc' doc : Document} {last : NodeId} (h : doc'.FadesAt doc last)

include h

/-- What does not distinguish the two kinds is the same for all nodes. -/
theorem apply_kind_eq {α : Type} {f : NodeKind → α}
    (hf : f (.block (.paragraph true)) = f (.block (.paragraph false))) (id : NodeId) :
    f (doc'.kind id) = f (doc.kind id) := by
  by_cases hid : id = last
  · rw [hid, h.kind_last, h.kind_last', hf]
  · rw [h.kind_eq id hid]

/-! ## Spans and tables -/

theorem step_eq : SpanCollector.step doc' = SpanCollector.step doc := by
  funext c frame stack
  rw [SpanCollector.step, SpanCollector.step, funext h.firstChild?_eq, funext h.nextSibling?_eq]
  cases frame.next with
  | none => rfl
  | some id =>
    by_cases hid : id = last
    · simp only [hid, h.kind_last, h.kind_last']
    · simp only [h.kind_eq id hid]

theorem walk_eq : ∀ (bound : Nat) (c : SpanCollector) (stack : List SpanFrame),
    SpanCollector.walk doc' bound c stack = SpanCollector.walk doc bound c stack
  | 0, _, _ => rfl
  | _ + 1, _, [] => rfl
  | bound + 1, c, frame :: stack => by
    rw [SpanCollector.walk, SpanCollector.walk, h.step_eq]
    exact walk_eq bound _ _

theorem spans_eq : doc'.spans = doc.spans := by
  funext id
  rw [spans, spans, SpanCollector.collect, SpanCollector.collect, h.walk_eq, h.size_eq,
    h.firstChild?_eq]

theorem isCell_eq : Table.isCell doc' = Table.isCell doc :=
  funext (h.apply_kind_eq (f := fun k => k == .block .tableCell) rfl)

theorem isRow_eq : Table.isRow doc' = Table.isRow doc :=
  funext (h.apply_kind_eq (f := fun k => k == .block .tableRow) rfl)

theorem rowCells_eq : Table.rowCells doc' = Table.rowCells doc := by
  funext row
  rw [Table.rowCells, Table.rowCells, h.children_eq, h.isCell_eq, h.spans_eq]

theorem sectionRows_eq : doc'.sectionRows = doc.sectionRows := by
  funext id
  rw [sectionRows, sectionRows, h.children_eq, h.isRow_eq]

theorem headerRowsOf_eq : doc'.headerRowsOf = doc.headerRowsOf := by
  funext id
  rw [headerRowsOf, headerRowsOf, h.sectionRows_eq]
  by_cases hid : id = last
  · rw [hid, h.kind_last, h.kind_last']
  · rw [h.kind_eq id hid]

theorem bodyRowsOf_eq : doc'.bodyRowsOf = doc.bodyRowsOf := by
  funext id
  rw [bodyRowsOf, bodyRowsOf, h.sectionRows_eq]
  by_cases hid : id = last
  · rw [hid, h.kind_last, h.kind_last']
  · rw [h.kind_eq id hid]

theorem table_eq : Table.ofNode doc' = Table.ofNode doc := by
  funext id
  simp only [Table.ofNode, Table.gather_eq, headerRows, bodyRows, h.children_eq, h.headerRowsOf_eq,
    h.bodyRowsOf_eq, h.rowCells_eq, h.apply_kind_eq (f := Table.alignmentsOf) rfl]

/-- A layout builder does not notice which of the two documents the calls are about. -/
theorem emit_eq : LayoutBuilder.emit doc' = LayoutBuilder.emit doc := by
  funext b call
  cases call with
  | text source fadeOut => rw [LayoutBuilder.emit, LayoutBuilder.emit, h.spans_eq]
  | table root => rw [LayoutBuilder.emit, LayoutBuilder.emit, h.table_eq]
  | _ => rfl

/-! ## Diagnostics -/

theorem listItems_eq : doc'.listItems = doc.listItems := by
  funext id
  rw [listItems, listItems, h.children_eq]
  simp only [h.apply_kind_eq (f := NodeKind.isListItem) rfl]

theorem inner_eq : doc'.inner = doc.inner := by
  funext id
  rw [inner, inner, h.listItems_eq, h.children_eq, funext h.children_eq]
  by_cases hid : id = last
  · rw [hid, h.kind_last, h.kind_last']
  · rw [h.kind_eq id hid]

theorem diagnostic_of_eq (id : NodeId) (kind : DiagnosticKind) :
    Diagnostic.of doc' id kind = Diagnostic.of doc id kind := by
  rw [Diagnostic.of, Diagnostic.of, h.parent?_eq]
  simp only [h.apply_kind_eq (f := NodeKind.blockType?) rfl]

theorem misplaced_eq : doc'.misplaced = doc.misplaced := by
  funext id
  rw [misplaced, misplaced]
  simp only [h.diagnostic_of_eq]
  by_cases hid : id = last
  · rw [hid, h.kind_last, h.kind_last']
  · rw [h.kind_eq id hid]

/-- **The diagnostics are the same.** -/
theorem diagnostics_eq : ∀ levels : Nat, doc'.diagnostics levels = doc.diagnostics levels
  | 0 => by
    funext id
    rw [diagnostics, diagnostics, h.diagnostic_of_eq]
  | levels + 1 => by
    funext id
    rw [diagnostics, diagnostics, h.misplaced_eq, h.inner_eq, diagnostics_eq levels]

end FadesAt

end Document

/-! ## Calls -/

/-- A call with the text of a node faded out, if it shows this text. -/
def Call.fade (last : NodeId) : Call → Call
  | .text id false => .text id (id == last)
  | call => call

/-- The node whose text a call shows. -/
def Call.source? : Call → Option NodeId
  | .text id _ => some id
  | _ => none

namespace Document

namespace FadesAt

variable {doc' doc : Document} {last : NodeId}

section

variable {visit' visit : NodeId → List Call}
  (hvisit : ∀ id, visit' id = (visit id).map (Call.fade last))

include hvisit

theorem itemBody_eq (h : doc'.FadesAt doc last) (id : NodeId) :
    doc'.itemBody visit' id = (doc.itemBody visit id).map (Call.fade last) := by
  rw [itemBody, itemBody, h.children_eq]
  split
  · rfl
  · rw [List.map_flatMap, funext hvisit]

theorem itemCalls_eq (h : doc'.FadesAt doc last) : ∀ (index : Nat) (ids : List NodeId),
    doc'.itemCalls visit' index ids = (doc.itemCalls visit index ids).map (Call.fade last)
  | _, [] => rfl
  | index, id :: ids => by
    rw [itemCalls, itemCalls, itemBody_eq hvisit h, itemCalls_eq h (index + 1) ids]
    simp [Call.fade]

theorem listCalls_eq (h : doc'.FadesAt doc last) (kind : ListKind) (start : Int)
    (items : List NodeId) :
    doc'.listCalls visit' kind start items =
      (doc.listCalls visit kind start items).map (Call.fade last) := by
  rw [listCalls, listCalls, itemCalls_eq hvisit h]
  simp [Call.fade]

/-- The calls of a node that is not the one that is faded out. -/
theorem blockCalls_eq (h : doc'.FadesAt doc last) {id : NodeId} (hid : id ≠ last) (b : Block) :
    doc'.blockCalls visit' id b = (doc.blockCalls visit id b).map (Call.fade last) := by
  have hchildren : (doc'.children id).flatMap visit' =
      ((doc.children id).flatMap visit).map (Call.fade last) := by
    rw [h.children_eq, List.map_flatMap, funext hvisit]
  have htext : Call.fade last (.text id false) = .text id false := by
    simp [Call.fade, hid]
  cases b with
  | document => exact hchildren
  | blockQuote =>
    rw [blockCalls, blockCalls, hchildren]
    simp [Call.fade]
  | unorderedList =>
    rw [blockCalls, blockCalls, h.listItems_eq]
    exact listCalls_eq hvisit h _ _ _
  | orderedList start =>
    rw [blockCalls, blockCalls, h.children_eq]
    exact listCalls_eq hvisit h _ _ _
  | heading level =>
    rw [blockCalls, blockCalls, List.map_cons, List.map_cons, htext]
    rfl
  | paragraph fadeOut =>
    cases fadeOut with
    | false =>
      rw [blockCalls, blockCalls, List.map_singleton, htext]
    | true => rfl
  | footReferenceDefinition label =>
    rw [blockCalls, blockCalls, hchildren]
    rfl
  | _ => rfl

end

/-- **The mark changes the calls that show the paragraph**, and no others. -/
theorem calls_eq (h : doc'.FadesAt doc last) : ∀ (levels : Nat) (id : NodeId),
    doc'.calls levels id = (doc.calls levels id).map (Call.fade last)
  | 0, _ => rfl
  | levels + 1, id => by
    rw [calls, calls]
    by_cases hid : id = last
    · rw [hid, h.kind_last, h.kind_last']
      simp [blockCalls, Call.fade]
    · rw [h.kind_eq id hid]
      cases doc.kind id with
      | block b => exact blockCalls_eq (calls_eq h levels) h hid b
      | inline i => cases i <;> rfl

end FadesAt

/-! ## Every text once -/

variable {doc : Document}

/-- The nodes whose text the calls of a node show. -/
def sources (doc : Document) (levels : Nat) (id : NodeId) : List NodeId :=
  (doc.calls levels id).filterMap Call.source?

/-- Whether the default rule of a node shows its text. -/
def showsText (doc : Document) (id : NodeId) : Bool :=
  match doc.kind id with
  | .block (.heading _) | .block (.paragraph _) => true
  | _ => false

theorem filterMap_source?_enclosed {start stop : Call} (hstart : start.source? = none)
    (hstop : stop.source? = none) (inner rest : List Call) :
    (start :: (inner ++ stop :: rest)).filterMap Call.source? =
      inner.filterMap Call.source? ++ rest.filterMap Call.source? := by
  rw [List.filterMap_cons_none hstart, List.filterMap_append, List.filterMap_cons_none hstop]

theorem filterMap_source?_itemCalls (visit : NodeId → List Call) :
    ∀ (index : Nat) (ids : List NodeId),
      (doc.itemCalls visit index ids).filterMap Call.source? =
        (ids.flatMap doc.children).flatMap fun c => (visit c).filterMap Call.source?
  | _, [] => rfl
  | index, id :: ids => by
    have hbody : (doc.itemBody visit id).filterMap Call.source? =
        (doc.children id).flatMap fun c => (visit c).filterMap Call.source? := by
      rw [itemBody]
      cases doc.children id with
      | nil => rfl
      | cons c cs => rw [List.filterMap_flatMap]
    rw [itemCalls, filterMap_source?_enclosed rfl rfl, hbody,
      filterMap_source?_itemCalls visit (index + 1) ids, List.flatMap_cons, List.flatMap_append]

/-- What the calls of a node show: its own text or the texts of the nodes the pass goes on to. -/
theorem sources_succ (levels : Nat) (id : NodeId) :
    doc.sources (levels + 1) id =
      if doc.showsText id then [id] else (doc.inner id).flatMap (doc.sources levels) := by
  have hlist : ∀ (kind : ListKind) (start : Int) (items : List NodeId),
      (doc.listCalls (doc.calls levels) kind start items).filterMap Call.source? =
        (items.flatMap doc.children).flatMap (doc.sources levels) := by
    intro kind start items
    rw [listCalls, filterMap_source?_enclosed rfl rfl, filterMap_source?_itemCalls]
    exact List.append_nil _
  rw [sources, calls, showsText, inner]
  cases doc.kind id with
  | inline i => cases i <;> rfl
  | block b =>
    cases b with
    | document => exact List.filterMap_flatMap
    | blockQuote =>
      have hstart : Call.quoteStart.source? = none := rfl
      have hstop : Call.quoteEnd.source? = none := rfl
      have hquote := filterMap_source?_enclosed hstart hstop
        ((doc.children id).flatMap (doc.calls levels)) []
      exact hquote.trans ((List.append_nil _).trans List.filterMap_flatMap)
    | footReferenceDefinition label => exact List.filterMap_flatMap
    | unorderedList => exact hlist _ _ _
    | orderedList start => exact hlist _ _ _
    | _ => rfl

theorem sources_staysBelow : ∀ levels : Nat, doc.StaysBelow (doc.sources levels)
  | 0 => fun _ _ _ _ _ => .nil
  | levels + 1 => by
    intro parent next id t h
    rw [sources_succ]
    split
    · exact InStretch.nil.cons (Nat.lt_add_of_pos_right t.size_pos)
    · exact (goesDown_inner (sources_staysBelow levels) h).mono (Nat.le_succ _) (Nat.le_refl _)

/-- **The text of a node is shown once at most.** -/
theorem pairwise_sources_calls (t : Tree) (levels : Nat) :
    ((t.document.calls levels 0).filterMap Call.source?).Pairwise (· < ·) :=
  (sources_staysBelow levels t.placed_document).pairwise

end Document

namespace Call

variable {last : NodeId} {calls : List Call}

theorem fade_of_ne {call : Call} (h : call ≠ .text last false) : call.fade last = call := by
  cases call with
  | text id fadeOut =>
    cases fadeOut with
    | false =>
      have hid : id ≠ last := fun he => h (he ▸ rfl)
      simp [fade, hid]
    | true => rfl
  | _ => rfl

theorem map_fade_of_notMem (h : .text last false ∉ calls) : calls.map (fade last) = calls := by
  have hself : ∀ call ∈ calls, call.fade last = id call :=
    fun call hcall => fade_of_ne fun he => h (he ▸ hcall)
  rw [List.map_congr_left hself, List.map_id]

/-- Where every text is shown once at most, one call is changed at most. -/
theorem map_fade_cases (last : NodeId) (h : (calls.filterMap source?).Pairwise (· < ·)) :
    (.text last false ∉ calls ∧ calls.map (fade last) = calls) ∨
      ∃ before after, calls = before ++ .text last false :: after ∧
        calls.map (fade last) = before ++ .text last true :: after := by
  by_cases hmem : .text last false ∈ calls
  · obtain ⟨before, after, rfl⟩ := List.append_of_mem hmem
    rw [List.filterMap_append, List.pairwise_append] at h
    obtain ⟨-, hafter, hbefore⟩ := h
    have hsource : ∀ {l : List Call}, .text last false ∈ l → last ∈ l.filterMap source? :=
      fun hmem => List.mem_filterMap.mpr ⟨_, hmem, rfl⟩
    have hfront : .text last false ∉ before := fun hmem =>
      absurd (hbefore last (hsource hmem) last (hsource List.mem_cons_self)) (Nat.lt_irrefl last)
    have hback : .text last false ∉ after := by
      intro hmem
      rw [List.filterMap_cons_some (by rfl : source? (.text last false) = some last)] at hafter
      exact absurd (List.rel_of_pairwise_cons hafter (hsource hmem)) (Nat.lt_irrefl last)
    refine .inr ⟨before, after, rfl, ?_⟩
    rw [List.map_append, List.map_cons, map_fade_of_notMem hfront, map_fade_of_notMem hback]
    simp [fade]
  · exact .inl ⟨hmem, map_fade_of_notMem hmem⟩

end Call

/-! ## The last paragraph -/

namespace Document

variable {doc' doc : Document} {last : NodeId}

/-- The calls of a pass that only records them. -/
theorem calls_recorded (doc : Document) (maxDepth : Nat) :
    (Pass.run ⟨doc, .none⟩ maxDepth (some 0) ({} : Recording)).sink.calls =
      doc.calls maxDepth 0 := by
  rw [Pass.run_none]
  exact Recording.calls_foldl_emit doc _ {}

/-- **The passes over a document and the same with one paragraph faded out.** -/
theorem FadesAt.render_cases {t : Tree} (ht : doc = t.document) (h : doc'.FadesAt doc last)
    (maxDepth : Nat) :
    (.text last false ∉ doc.calls maxDepth 0 ∧ doc'.calls maxDepth 0 = doc.calls maxDepth 0 ∧
      doc'.render .none maxDepth = doc.render .none maxDepth) ∨
    (∃ before after, doc.calls maxDepth 0 = before ++ .text last false :: after ∧
      doc'.calls maxDepth 0 = before ++ .text last true :: after ∧
      ∃ blocks blocks' diagnostics, Fades blocks blocks' ∧
        doc.render .none maxDepth = ⟨⟨blocks⟩, diagnostics, []⟩ ∧
        doc'.render .none maxDepth = ⟨⟨blocks'⟩, diagnostics, []⟩) := by
  have hpairwise : ((doc.calls maxDepth 0).filterMap Call.source?).Pairwise (· < ·) := by
    rw [ht]
    exact pairwise_sources_calls t maxDepth
  have hofCalls : ∀ calls, LayoutBuilder.ofCalls doc' calls = LayoutBuilder.ofCalls doc calls := by
    intro calls
    rw [LayoutBuilder.ofCalls, LayoutBuilder.ofCalls, h.emit_eq]
  have hcalls := h.calls_eq maxDepth 0
  rcases Call.map_fade_cases last hpairwise with ⟨hnone, hsame⟩ | ⟨before, after, hoff, hon⟩
  · refine .inl ⟨hnone, hcalls.trans hsame, ?_⟩
    rw [render_none, render_none, hcalls, hsame, hofCalls, h.diagnostics_eq]
  · refine .inr ⟨before, after, hoff, hcalls.trans hon, ?_⟩
    have hholds : doc.Holds 0 t := ht ▸ t.holds_document
    have hparses := hholds.parses_calls maxDepth
    obtain ⟨blocks', hparses', hfades⟩ := hparses.exists_fades hoff
    refine ⟨t.layout maxDepth, blocks', doc.diagnostics maxDepth 0, hfades, ?_, ?_⟩
    · exact hholds.render_eq maxDepth
    · rw [render_none, hofCalls, hcalls, hon, hparses'.ofCalls, h.diagnostics_eq]
      rfl

/-- Marking the trailing paragraph: there is a last one in creation order, or there is none. -/
theorem markTrailingParagraph_cases (doc : Document) :
    (doc.markTrailingParagraph = doc ∧ ∀ id ∈ doc.iter, (doc.kind id).isParagraph = false) ∨
    ∃ before last after, doc.iter = before ++ last :: after ∧
      (doc.kind last).isParagraph = true ∧ (∀ id ∈ after, (doc.kind id).isParagraph = false) ∧
      doc.markTrailingParagraph = doc.setKind last (.block (.paragraph true)) := by
  cases hfind : doc.iter.reverse.find? fun id => (doc.kind id).isParagraph with
  | none =>
    refine .inl ⟨by rw [markTrailingParagraph, hfind], fun id hid => ?_⟩
    rw [List.find?_eq_none] at hfind
    exact Bool.eq_false_iff.mpr (hfind id (List.mem_reverse.mpr hid))
  | some last =>
    obtain ⟨hlast, behind, front, hiter, hbehind⟩ := List.find?_eq_some_iff_append.mp hfind
    refine .inr ⟨front.reverse, last, behind.reverse, ?_, hlast, ?_, ?_⟩
    · have hreverse := congrArg List.reverse hiter
      simpa using hreverse
    · intro id hid
      have hnot := hbehind id (List.mem_reverse.mp hid)
      simpa using hnot
    · rw [markTrailingParagraph, hfind]

/-- No paragraph of an unmarked tree is faded out. -/
theorem kind_eq_of_unmarked {t : Tree} (ht : t.Unmarked) {id : NodeId}
    (h : (t.document.kind id).isParagraph = true) :
    t.document.kind id = .block (.paragraph false) := by
  have hmem : t.document.kind id ∈ t.kinds := by
    rw [← t.kinds_document, kinds]
    rw [kind] at h ⊢
    cases hget : t.document.get? id with
    | none =>
      rw [hget] at h
      cases h
    | some n => exact List.mem_map_of_mem (Array.mem_toList_iff.mpr (Array.mem_of_getElem? hget))
  rw [← ht _ hmem, NodeKind.plain_of_isParagraph h]

end Document

/-- **The option of fading out marks the last paragraph and does nothing else.** Without it no
paragraph is faded out. With it the document is the same, but that the paragraph which comes last in
document order, if there is one, is faded out. Then the passes over the two documents report the
same at any limit, and they make the same calls and the same layout, but that the text of this
paragraph, if it is shown, is faded out in both. -/
theorem assemble_fades_last_paragraph (events : List Located) (definitions : List Definition) :
    let off := Document.assemble events definitions false
    let on := Document.assemble events definitions true
    let calls (doc : Document) (maxDepth : Nat) :=
      (Pass.run ⟨doc, .none⟩ maxDepth (some 0) ({} : Recording)).sink.calls
    (∀ id, off.kind id ≠ .block (.paragraph true)) ∧
    ∃ order, off.Traverses (some 0) order ∧
      ((on = off ∧ ∀ id ∈ order, (off.kind id).isParagraph = false) ∨
        ∃ before last after, order = before ++ last :: after ∧
          off.kind last = .block (.paragraph false) ∧
          (∀ id ∈ after, (off.kind id).isParagraph = false) ∧
          on = off.setKind last (.block (.paragraph true)) ∧
          ∀ maxDepth,
            let shown := off.render .none maxDepth
            let shown' := on.render .none maxDepth
            shown'.diagnostics = shown.diagnostics ∧ shown'.warnings = shown.warnings ∧
              ((.text last false ∉ calls off maxDepth ∧ calls on maxDepth = calls off maxDepth ∧
                  shown'.layout = shown.layout) ∨
                ((∃ front back, calls off maxDepth = front ++ .text last false :: back ∧
                    calls on maxDepth = front ++ .text last true :: back) ∧
                  Fades shown.layout.blocks shown'.layout.blocks))) := by
  intro off on calls
  have hoff : off = (Document.assembled events definitions).document :=
    Document.document_assembled events definitions
  have hon : on = off.markTrailingParagraph := rfl
  have hplain : ∀ id, (off.kind id).isParagraph = true →
      off.kind id = .block (.paragraph false) := by
    intro id
    rw [hoff]
    exact Document.kind_eq_of_unmarked (Document.unmarked_assembled events definitions)
  have hunmarked : ∀ id, off.kind id ≠ .block (.paragraph true) := by
    intro id hid
    have hfalse := hplain id (by rw [hid]; rfl)
    rw [hid] at hfalse
    cases hfalse
  have horder : off.Traverses (some 0) off.iter := by
    rw [hoff]
    exact (Document.assembled events definitions).ordered_document.traverses
  have hrecorded : ∀ doc maxDepth, calls doc maxDepth = doc.calls maxDepth 0 :=
    fun doc maxDepth => doc.calls_recorded maxDepth
  refine ⟨hunmarked, off.iter, horder, ?_⟩
  rcases off.markTrailingParagraph_cases with
    ⟨hsame, hnone⟩ | ⟨before, last, after, hiter, hlast, hafter, hmark⟩
  · exact .inl ⟨hon.trans hsame, hnone⟩
  · rw [← hon] at hmark
    have hkind := hplain last hlast
    have hfades : on.FadesAt off last := hmark ▸ Document.fadesAt_setKind hkind
    refine .inr ⟨before, last, after, hiter, hkind, hafter, hmark, fun maxDepth => ?_⟩
    simp only [hrecorded]
    rcases hfades.render_cases hoff maxDepth with ⟨hnone, hcalls, hrender⟩ |
      ⟨front, back, hcalls, hcalls', blocks, blocks', diagnostics, hblocks, hshown, hshown'⟩
    · rw [hrender]
      exact ⟨rfl, rfl, .inl ⟨hnone, hcalls, rfl⟩⟩
    · rw [hshown, hshown']
      exact ⟨rfl, rfl, .inr ⟨⟨front, back, hcalls, hcalls'⟩, hblocks⟩⟩

/-- Two paragraphs, the second one in a list below a quote. At one level neither is shown. -/
example :
    let range : SourceRange := ⟨0, 9⟩
    let events (ts : List EventTree) := EventTree.eventsAll ts
    let forest : List EventTree := [.element .paragraph range range [.leaf (.text "a") range],
      .element .blockQuote range range [.element (.list none) range range
        [.element .item range range [.leaf (.text "b") range]]]]
    let off := Document.assemble (events forest) [] false
    let on := Document.assemble (events forest) [] true
    on = off.setKind 6 (.block (.paragraph true)) ∧ on.calls 1 0 = off.calls 1 0 ∧
      on.calls 4 0 = [.text 1 false, .quoteStart, .listStart .unordered 0, .itemStart 0,
        .text 6 true, .itemEnd, .listEnd, .quoteEnd] := by
  decide +kernel

end MarkdownTree
