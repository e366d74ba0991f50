import MarkdownTree.Proofs.Layout.Brackets
import MarkdownTree.Proofs.Render.Default
import MarkdownTree.Proofs.Tree.Tables
import MarkdownTree.Proofs.Tree.Zipper
import MarkdownTree.Render.Layout

/-!
# The layout of a tree

The default rules with their starts and ends amount to a plain recursion: a container of the tree
is a container of the layout with the layouts of what is below it.

* `Tree.layout` — this recursion, cut off at a number of levels.
* `Holds.parses_calls` — the calls of a node are well-bracketed and stand for the layout of its
  tree.
* `render_eq_layout` — so rendering a document gives the layout of its tree.
-/

namespace MarkdownTree

namespace Tree

/-- The blocks of a list item. -/
def itemLayout (visit : Tree → List LayoutBlock) (t : Tree) : List LayoutBlock :=
  match t.children with
  | [] => [.empty]
  | children => children.flatMap visit

/-- The layout of a block, given that of the trees below it. -/
def blockLayout (visit : Tree → List LayoutBlock) (t : Tree) : Block → List LayoutBlock
  | .document => t.children.flatMap visit
  | .blockQuote => [.quote (t.children.flatMap visit)]
  | .unorderedList =>
    [.list .unordered 0 ((t.children.filter fun c => c.kind.isListItem).map (itemLayout visit))]
  | .orderedList start =>
    [.list .ordered (Pass.startIndex start) (t.children.map (itemLayout visit))]
  | .thematicBreak => [.rule]
  | .heading level => [.heading level [.text t.spans false]]
  | .indentedCodeBlock literal => [.code none (Pass.codeText literal)]
  | .fencedCodeBlock info literal => [.code (Pass.fenceLanguage info) (Pass.codeText literal)]
  | .htmlBlock literal => [.html literal]
  | .paragraph fadeOut => [.text t.spans fadeOut]
  | .tableRoot _ => [.table t.table]
  | .footDefinition label => [.run label]
  | .footReferenceDefinition label => .run label :: t.children.flatMap visit
  | .linkReferenceDefinition _ _ _ | .listItem | .tableHeader | .tableBody | .tableRow
  | .tableCell => []

/-- The layout of a tree with some levels left. -/
def layout : Nat → Tree → List LayoutBlock
  | 0, _ => []
  | levels + 1, t =>
    match t.kind with
    | .block b => t.blockLayout (layout levels) b
    | .inline (.text literal) => [.run literal]
    | .inline _ => []

end Tree

namespace Document.Holds

variable {doc : Document} {id : NodeId} {t : Tree} {calls : NodeId → List Call}
  {layout : Tree → List LayoutBlock}

/-- The content of an item is the layout of its tree. An item without children is shown as an
empty place, on both sides. -/
theorem parses_itemBody (hparses : ∀ c u, doc.Holds c u → Parses doc (calls c) (layout u))
    (h : doc.Holds id t) : Parses doc (doc.itemBody calls id) (Tree.itemLayout layout t) := by
  have hchildren := h.children
  rw [itemBody, Tree.itemLayout]
  generalize doc.children id = children, t.children = trees at hchildren ⊢
  cases hchildren with
  | nil => exact .single rfl
  | cons hfirst hrest => exact .flatMap hparses (.cons hfirst hrest)

/-- The items of a list are the layouts of the trees below it. -/
theorem parses_itemCalls (hparses : ∀ c u, doc.Holds c u → Parses doc (calls c) (layout u))
    {ids : List NodeId} {ts : List Tree} (h : List.Forall₂ doc.Holds ids ts) (index : Nat) :
    ParsesItems doc (doc.itemCalls calls index ids) (ts.map (Tree.itemLayout layout)) := by
  induction h generalizing index with
  | nil => exact .nil
  | cons hcu _ ih => exact .item (parses_itemBody hparses hcu) (ih (index + 1))

theorem parses_listCalls (hparses : ∀ c u, doc.Holds c u → Parses doc (calls c) (layout u))
    {ids : List NodeId} {ts : List Tree} (h : List.Forall₂ doc.Holds ids ts) (kind : ListKind)
    (start : Int) :
    Parses doc (doc.listCalls calls kind start ids)
      [.list kind start (ts.map (Tree.itemLayout layout))] :=
  .list (parses_itemCalls hparses h 0) .nil

theorem parses_blockCalls (hparses : ∀ c u, doc.Holds c u → Parses doc (calls c) (layout u))
    (h : doc.Holds id t) (b : Block) :
    Parses doc (doc.blockCalls calls id b) (t.blockLayout layout b) := by
  cases b with
  | document => exact .flatMap hparses h.children
  | blockQuote => exact .quote (.flatMap hparses h.children) .nil
  | unorderedList =>
    refine parses_listCalls hparses (filter_of_forall₂ h.children fun c u hcu => ?_) _ _
    rw [hcu.kind_eq]
  | orderedList start => exact parses_listCalls hparses h.children _ _
  | heading level =>
    have htext : Parses doc [.text id false] [.text t.spans false] :=
      .single (by rw [Call.block?, h.spans_eq])
    exact .heading htext .nil
  | paragraph fadeOut => exact .single (by rw [Call.block?, h.spans_eq])
  | tableRoot alignments => exact .single (by rw [Call.block?, h.table_eq])
  | footReferenceDefinition label => exact .leaf rfl (.flatMap hparses h.children)
  | thematicBreak => exact .single rfl
  | indentedCodeBlock literal => exact .single rfl
  | fencedCodeBlock info literal => exact .single rfl
  | htmlBlock literal => exact .single rfl
  | footDefinition label => exact .single rfl
  | linkReferenceDefinition label destination title => exact .nil
  | listItem => exact .nil
  | tableHeader => exact .nil
  | tableBody => exact .nil
  | tableRow => exact .nil
  | tableCell => exact .nil

/-- **The calls of a node are well-bracketed and stand for the layout of its tree.** -/
theorem parses_calls : ∀ (levels : Nat) {id : NodeId} {t : Tree}, doc.Holds id t →
    Parses doc (doc.calls levels id) (t.layout levels)
  | 0, _, _, _ => .nil
  | levels + 1, id, t, h => by
    rw [Document.calls, Tree.layout, h.kind_eq]
    cases t.kind with
    | block b => exact h.parses_blockCalls (fun _ _ => parses_calls levels) b
    | inline i =>
      cases i with
      | text literal => exact .single rfl
      | _ => exact .nil

end Document.Holds

/-- Rendering a document without a composer: what a builder makes of its calls. -/
theorem Document.render_none (doc : Document) (maxDepth : Nat) :
    let b := LayoutBuilder.ofCalls doc (doc.calls maxDepth 0)
    doc.render .none maxDepth = ⟨b.layout, doc.diagnostics maxDepth 0, b.warnings⟩ := by
  intro b
  rw [render, Pass.run_none, Rendering.ofPass]
  simp only [Pass.extend, List.append_nil, List.reverse_reverse]
  rfl

/-- Rendering a document that holds a tree: the layout of the tree, the diagnostics of the nodes,
and nothing to repair. -/
theorem Document.Holds.render_eq {doc : Document} {t : Tree} (h : doc.Holds 0 t)
    (maxDepth : Nat) :
    doc.render .none maxDepth = ⟨⟨t.layout maxDepth⟩, doc.diagnostics maxDepth 0, []⟩ := by
  rw [render_none, (h.parses_calls maxDepth).ofCalls]
  rfl

/-- **Rendering a document without a composer gives the layout of its tree.** The builder has
nothing to repair on the way. -/
theorem render_eq_layout (operations : List Builder.Operation) (maxDepth : Nat) :
    let doc := (Builder.run operations).document
    (doc.render .none maxDepth).layout = ⟨doc.tree.layout maxDepth⟩ ∧
      (doc.render .none maxDepth).warnings = [] := by
  intro doc
  have hholds : doc.Holds 0 doc.tree := by
    have hdoc : doc = doc.tree.document := Builder.document_run operations
    have hholds := doc.tree.holds_document
    rwa [← hdoc] at hholds
  rw [hholds.render_eq]
  exact ⟨rfl, rfl⟩

end MarkdownTree
