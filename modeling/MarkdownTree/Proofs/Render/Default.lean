import MarkdownTree.Render.Pass

/-!
# What the default rules put out

Without a composer, what a pass adds to its sink and to its diagnostics at a node depends on the
document only, not on what came before. Both are computed here by recursion on the levels left.

* `Document.calls`, `Document.diagnostics` — the calls and the diagnostics of a node with some
  levels left, in order.
* `Pass.render_none` — rendering a node without a composer adds just these, for every sink.
-/

namespace MarkdownTree

namespace Document

variable (doc : Document)

/-! ## Calls -/

/-- The calls for the content of a list item. -/
def itemBody (visit : NodeId → List Call) (id : NodeId) : List Call :=
  match doc.children id with
  | [] => [.empty]
  | children => children.flatMap visit

/-- The calls for the items of a list, counted from `index`. -/
def itemCalls (visit : NodeId → List Call) : Nat → List NodeId → List Call
  | _, [] => []
  | index, id :: ids =>
    .itemStart index :: (doc.itemBody visit id ++ .itemEnd :: itemCalls visit (index + 1) ids)

/-- The calls for a list with the given items. -/
def listCalls (visit : NodeId → List Call) (kind : ListKind) (start : Int)
    (items : List NodeId) : List Call :=
  .listStart kind start :: (doc.itemCalls visit 0 items ++ [.listEnd])

/-- The children of a node that are list items. -/
def listItems (id : NodeId) : List NodeId :=
  (doc.children id).filter fun c => (doc.kind c).isListItem

/-- The calls of the default rule of a block. -/
def blockCalls (visit : NodeId → List Call) (id : NodeId) : Block → List Call
  | .document => (doc.children id).flatMap visit
  | .blockQuote => .quoteStart :: ((doc.children id).flatMap visit ++ [.quoteEnd])
  | .unorderedList => doc.listCalls visit .unordered 0 (doc.listItems id)
  | .orderedList start =>
    doc.listCalls visit .ordered (Pass.startIndex start) (doc.children id)
  | .thematicBreak => [.rule]
  | .heading level => [.headingStart level, .text id false, .headingEnd]
  | .indentedCodeBlock literal => [.code none (Pass.codeText literal)]
  | .fencedCodeBlock info literal => [.code (Pass.fenceLanguage info) (Pass.codeText literal)]
  | .htmlBlock literal => [.html literal]
  | .paragraph fadeOut => [.text id fadeOut]
  | .tableRoot _ => [.table id]
  | .footDefinition label => [.run label]
  | .footReferenceDefinition label => .run label :: (doc.children id).flatMap visit
  | .linkReferenceDefinition _ _ _ | .listItem | .tableHeader | .tableBody | .tableRow
  | .tableCell => []

/-- The calls of a node with some levels left. -/
def calls : Nat → NodeId → List Call
  | 0, _ => []
  | levels + 1, id =>
    match doc.kind id with
    | .block b => doc.blockCalls (calls levels) id b
    | .inline (.text literal) => [.run literal]
    | .inline _ => []

/-! ## Diagnostics -/

/-- The nodes that the default rule of a node goes on to. It passes over the items of a list. -/
def inner (id : NodeId) : List NodeId :=
  match doc.kind id with
  | .block .document | .block .blockQuote | .block (.footReferenceDefinition _) =>
    doc.children id
  | .block .unorderedList => (doc.listItems id).flatMap doc.children
  | .block (.orderedList _) => (doc.children id).flatMap doc.children
  | _ => []

/-- What the default rule of a node reports of the node itself. -/
def misplaced (id : NodeId) : List Diagnostic :=
  match doc.kind id with
  | .block .listItem => [.of doc id .listItemOutsideList]
  | .block .tableHeader | .block .tableBody | .block .tableRow | .block .tableCell =>
    [.of doc id .tablePartOutsideTable]
  | .block _ => []
  | .inline (.text _) => [.of doc id .textOutsideBlock]
  | .inline _ => [.of doc id .inlineInBlockPosition]

/-- The diagnostics of a node with some levels left. -/
def diagnostics : Nat → NodeId → List Diagnostic
  | 0, id => [.of doc id .depthExceeded]
  | levels + 1, id => doc.misplaced id ++ (doc.inner id).flatMap (diagnostics levels)

end Document

/-! ## The pass -/

namespace Pass

variable {σ : Type} [Sink σ]

/-- Adds calls and diagnostics to a pass. -/
def extend (doc : Document) (p : Pass σ) (calls : List Call) (diagnostics : List Diagnostic) :
    Pass σ :=
  { p with
    sink := calls.foldl (Sink.emit doc) p.sink
    diagnostics := diagnostics.reverse ++ p.diagnostics }

/-- Whether a way to go on with the walk adds the given calls and diagnostics at every node. -/
def Adds (doc : Document) (visit : NodeId → Pass σ → Pass σ) (calls : NodeId → List Call)
    (diagnostics : NodeId → List Diagnostic) : Prop :=
  ∀ (id : NodeId) (p : Pass σ), visit id p = p.extend doc (calls id) (diagnostics id)

variable {doc : Document} {composer : Composer}

@[simp] theorem extend_extend (p : Pass σ) (cs cs' : List Call) (ds ds' : List Diagnostic) :
    (p.extend doc cs ds).extend doc cs' ds' = p.extend doc (cs ++ cs') (ds ++ ds') := by
  simp [extend]

theorem emit_eq_extend (p : Pass σ) (call : Call) :
    p.emit ⟨doc, composer⟩ call = p.extend doc [call] [] := rfl

theorem report_eq_extend (p : Pass σ) (id : NodeId) (kind : DiagnosticKind) :
    p.report ⟨doc, composer⟩ id kind = p.extend doc [] [.of doc id kind] := rfl

section

variable {visit : NodeId → Pass σ → Pass σ} {calls : NodeId → List Call}
  {diagnostics : NodeId → List Diagnostic}

theorem renderAll_eq_extend (h : Adds doc visit calls diagnostics) :
    ∀ (ids : List NodeId) (p : Pass σ),
      renderAll visit ids p = p.extend doc (ids.flatMap calls) (ids.flatMap diagnostics)
  | [], p => rfl
  | id :: ids, p => by
    have ih := renderAll_eq_extend h ids (visit id p)
    rw [renderAll] at ih ⊢
    rw [List.foldl_cons, ih, h id p, extend_extend, List.flatMap_cons, List.flatMap_cons]

theorem renderItems_eq_extend (h : Adds doc visit calls diagnostics) :
    ∀ (ids : List NodeId) (index : Nat) (p : Pass σ),
      renderItems ⟨doc, composer⟩ visit index ids p =
        p.extend doc (doc.itemCalls calls index ids)
          ((ids.flatMap doc.children).flatMap diagnostics)
  | [], _, p => rfl
  | id :: ids, index, p => by
    rw [renderItems, renderItems_eq_extend h ids, Document.itemCalls, Document.itemBody,
      List.flatMap_cons, List.flatMap_append]
    cases hc : doc.children id with
    | nil => simp [emit_eq_extend]
    | cons child children => simp [emit_eq_extend, renderAll_eq_extend h]

theorem renderList_eq_extend (h : Adds doc visit calls diagnostics) (kind : ListKind)
    (start : Int) (items : List NodeId) (p : Pass σ) :
    renderList ⟨doc, composer⟩ visit kind start items p =
      p.extend doc (doc.listCalls calls kind start items)
        ((items.flatMap doc.children).flatMap diagnostics) := by
  rw [renderList, renderItems_eq_extend h]
  simp [emit_eq_extend, Document.listCalls]

/-- The default rule of a block goes on to the inner nodes, or it reports the block. -/
theorem blockRule_eq_extend (h : Adds doc visit calls diagnostics) {id : NodeId} {b : Block}
    (hk : doc.kind id = .block b) (p : Pass σ) :
    blockRule ⟨doc, composer⟩ visit id p b =
      p.extend doc (doc.blockCalls calls id b)
        (doc.misplaced id ++ (doc.inner id).flatMap diagnostics) := by
  rw [Document.misplaced, Document.inner, hk]
  cases b with
  | document => exact renderAll_eq_extend h _ p
  | blockQuote => simp [blockRule, emit_eq_extend, renderAll_eq_extend h, Document.blockCalls]
  | unorderedList => exact renderList_eq_extend h _ _ _ p
  | orderedList start => exact renderList_eq_extend h _ _ _ p
  | footReferenceDefinition label =>
    simp [blockRule, emit_eq_extend, renderAll_eq_extend h, Document.blockCalls]
  | _ => rfl

theorem defaultRule_eq_extend {levels : Nat}
    (h : Adds doc visit (doc.calls levels) (doc.diagnostics levels)) (id : NodeId) (p : Pass σ) :
    defaultRule ⟨doc, composer⟩ visit id p =
      p.extend doc (doc.calls (levels + 1) id) (doc.diagnostics (levels + 1) id) := by
  rw [defaultRule, Document.calls, Document.diagnostics]
  cases hk : doc.kind id with
  | block b => exact blockRule_eq_extend h hk p
  | inline i =>
    rw [Document.misplaced, Document.inner, hk]
    cases i <;> simp [report_eq_extend, emit_eq_extend]

end

/-- **Without a composer, rendering a node adds its calls and its diagnostics.** -/
theorem render_none (doc : Document) : ∀ levels : Nat,
    Adds (σ := σ) doc (render ⟨doc, .none⟩ levels) (doc.calls levels) (doc.diagnostics levels)
  | 0, _, _ => rfl
  | levels + 1, id, p => by
    -- no composer claims the node, so its default rule applies
    have hclaim : claim? ⟨doc, .none⟩ id = none := by
      rw [claim?]
      cases (doc.kind id).blockType? <;> rfl
    rw [render, dispatch, hclaim]
    simp only [defaultRule_eq_extend (render_none doc levels)]
    rfl

/-- The whole pass over a document without a composer. -/
theorem run_none (doc : Document) (maxDepth : Nat) (sink : σ) :
    run ⟨doc, .none⟩ maxDepth (some 0) sink =
      extend doc { sink } (doc.calls maxDepth 0) (doc.diagnostics maxDepth 0) := by
  rw [run, renderAll_eq_extend (render_none doc maxDepth)]
  simp

end Pass

end MarkdownTree
