import MarkdownTree.Proofs.Render.Clean
import MarkdownTree.Proofs.Render.Dispatch
import MarkdownTree.Proofs.Tree.Fragments

/-!
# The parts of a table

The table below a node is gathered from its children, from their children and from the children of
the rows among these. On each level some kinds are taken and all others are left out, so every node
that is looked at ends up in one place.

* `Document.HeaderRow`, `Document.BodyRow`, `Document.LeftOut` — what a node below a table root is,
  by its kind and those of the nodes above it.
* `Table.skipped_eq` — what is skipped, by the children of the root.
* `mem_headerRows_iff`, `mem_bodyRows_iff`, `mem_skipped_iff` — which nodes these are, and which are
  skipped.
* `StaysBelow.headerRowsOf`, `StaysBelow.bodyRowsOf`, `StaysBelow.skippedOf` — they are found in
  document order.
* `ofNode_partitions` — all of this for the documents of a builder.
-/

namespace MarkdownTree

/-! ## What a node below a table root is -/

namespace Document

/-- Whether a node is a block of some kind right below another one. -/
def IsChild (doc : Document) (parent : NodeId) (kind : Block) (id : NodeId) : Prop :=
  doc.parent? id = some parent ∧ doc.kind id = .block kind

/-- Whether a node is a row of a header right below a root. -/
def HeaderRow (doc : Document) (root row : NodeId) : Prop :=
  ∃ header, doc.IsChild root .tableHeader header ∧ doc.IsChild header .tableRow row

/-- Whether a node is a row right below a root, or a row of a body right below it. -/
def BodyRow (doc : Document) (root row : NodeId) : Prop :=
  doc.IsChild root .tableRow row ∨
    ∃ body, doc.IsChild root .tableBody body ∧ doc.IsChild body .tableRow row

/-- Whether a node does not belong into the table below a root: a child of the root that is neither
a section nor a row, a child of a section that is no row, or a child of a row that is no cell. -/
inductive LeftOut (doc : Document) (root : NodeId) : NodeId → Prop
  | belowRoot {id : NodeId} : doc.parent? id = some root → doc.kind id ≠ .block .tableHeader →
      doc.kind id ≠ .block .tableBody → doc.kind id ≠ .block .tableRow → LeftOut doc root id
  | belowSection {part id : NodeId} :
      doc.IsChild root .tableHeader part ∨ doc.IsChild root .tableBody part →
      doc.parent? id = some part → doc.kind id ≠ .block .tableRow → LeftOut doc root id
  | belowRow {row id : NodeId} : doc.HeaderRow root row ∨ doc.BodyRow root row →
      doc.parent? id = some row → doc.kind id ≠ .block .tableCell → LeftOut doc root id

/-- The cells of a row. -/
def rowCells (doc : Document) (row : NodeId) : List NodeId :=
  (doc.children row).filter (Table.isCell doc)

/-- The children of a row that are no cells. -/
def skippedInRow (doc : Document) (row : NodeId) : List NodeId :=
  (doc.children row).filter (!Table.isCell doc ·)

/-- The nodes of a section that do not belong into a table. -/
def skippedInSection (doc : Document) (part : NodeId) : List NodeId :=
  (doc.children part).flatMap fun row =>
    if Table.isRow doc row then doc.skippedInRow row else [row]

/-- The nodes at a child of a table root that do not belong into a table. -/
def skippedOf (doc : Document) (part : NodeId) : List NodeId :=
  match doc.kind part with
  | .block .tableHeader => doc.skippedInSection part
  | .block .tableBody => doc.skippedInSection part
  | .block .tableRow => doc.skippedInRow part
  | _ => [part]

end Document

/-! ## What is left out -/

namespace Table

/-- The node that is left out. -/
def Skip.node : Skip → NodeId
  | stray id | inCell id => id

variable (doc : Document) (part root : NodeId)

theorem filterMap_stray?_cellSkips (id : NodeId) :
    (cellSkips doc id).filterMap Skip.stray? = if isCell doc id then [] else [id] := by
  unfold cellSkips
  split
  · rw [List.filterMap_map, List.filterMap_eq_nil_iff]
    exact fun _ _ => rfl
  · rfl

theorem filterMap_stray?_rowSkips (id : NodeId) :
    (rowSkips doc id).filterMap Skip.stray? =
      if isRow doc id then doc.skippedInRow id else [id] := by
  unfold rowSkips Document.skippedInRow
  split
  · rw [List.filterMap_flatMap, ← List.flatMap_singleton' ((doc.children id).filter _),
      Document.flatMap_filter]
    congr 1
    funext c
    rw [filterMap_stray?_cellSkips]
    cases isCell doc c <;> rfl
  · rfl

theorem filterMap_stray?_partSkips :
    (partSkips doc part).filterMap Skip.stray? = doc.skippedOf part := by
  have hsection : ((doc.children part).flatMap (rowSkips doc)).filterMap Skip.stray? =
      doc.skippedInSection part := by
    rw [List.filterMap_flatMap, Document.skippedInSection]
    simp only [filterMap_stray?_rowSkips]
  unfold partSkips Document.skippedOf
  split
  · next hkind => simp only [hkind, hsection]
  · next hkind => simp only [hkind, hsection]
  · next hkind => simp [hkind, filterMap_stray?_rowSkips, isRow]
  · simp [Skip.stray?]

theorem skipped_eq : skipped doc root = (doc.children root).flatMap doc.skippedOf := by
  rw [skipped, gather_eq, List.filterMap_flatMap]
  simp only [filterMap_stray?_partSkips]

end Table

/-! ## Which nodes are rows, and which are left out -/

namespace Document

variable {doc : Document} {root part row id : NodeId}

namespace Ordered

variable (hdoc : doc.Ordered)

include hdoc

theorem mem_rowCells_iff : id ∈ doc.rowCells row ↔ doc.IsChild row .tableCell id := by
  rw [rowCells, List.mem_filter, hdoc.mem_children_iff, Table.isCell, beq_iff_eq]
  rfl

theorem mem_sectionRows_iff : id ∈ doc.sectionRows part ↔ doc.IsChild part .tableRow id := by
  rw [sectionRows, List.mem_filter, hdoc.mem_children_iff, Table.isRow, beq_iff_eq]
  rfl

/-- **The header rows** are the rows of the headers below the root. -/
theorem mem_headerRows_iff : row ∈ doc.headerRows root ↔ doc.HeaderRow root row := by
  rw [headerRows, List.mem_flatMap]
  constructor
  · rintro ⟨part, hpart, hrow⟩
    rw [hdoc.mem_children_iff] at hpart
    unfold headerRowsOf at hrow
    split at hrow
    · next hkind => exact ⟨part, ⟨hpart, hkind⟩, hdoc.mem_sectionRows_iff.mp hrow⟩
    · cases hrow
  · rintro ⟨part, ⟨hpart, hkind⟩, hrow⟩
    refine ⟨part, (hdoc.mem_children_iff root part).mpr hpart, ?_⟩
    rw [headerRowsOf, hkind]
    exact hdoc.mem_sectionRows_iff.mpr hrow

/-- **The body rows** are the rows below the root and the rows of the bodies below it. -/
theorem mem_bodyRows_iff : row ∈ doc.bodyRows root ↔ doc.BodyRow root row := by
  rw [bodyRows, List.mem_flatMap]
  constructor
  · rintro ⟨part, hpart, hrow⟩
    rw [hdoc.mem_children_iff] at hpart
    unfold bodyRowsOf at hrow
    split at hrow
    · next hkind => exact .inr ⟨part, ⟨hpart, hkind⟩, hdoc.mem_sectionRows_iff.mp hrow⟩
    · next hkind =>
      rw [List.mem_singleton] at hrow
      exact .inl ⟨hrow ▸ hpart, hrow ▸ hkind⟩
    · cases hrow
  · rintro (⟨hrow, hkind⟩ | ⟨part, ⟨hpart, hkind⟩, hrow⟩)
    · refine ⟨row, (hdoc.mem_children_iff root row).mpr hrow, ?_⟩
      rw [bodyRowsOf, hkind]
      exact List.mem_singleton.mpr rfl
    · refine ⟨part, (hdoc.mem_children_iff root part).mpr hpart, ?_⟩
      rw [bodyRowsOf, hkind]
      exact hdoc.mem_sectionRows_iff.mpr hrow

theorem mem_skippedInRow_iff :
    id ∈ doc.skippedInRow row ↔ doc.parent? id = some row ∧ doc.kind id ≠ .block .tableCell := by
  rw [skippedInRow, List.mem_filter, hdoc.mem_children_iff]
  simp [Table.isCell]

theorem mem_skippedInSection_iff :
    id ∈ doc.skippedInSection part ↔
      (doc.parent? id = some part ∧ doc.kind id ≠ .block .tableRow) ∨
        ∃ row, doc.IsChild part .tableRow row ∧ id ∈ doc.skippedInRow row := by
  rw [skippedInSection, List.mem_flatMap]
  constructor
  · rintro ⟨row, hrow, hid⟩
    rw [hdoc.mem_children_iff] at hrow
    by_cases hkind : Table.isRow doc row = true
    · rw [if_pos hkind] at hid
      exact .inr ⟨row, ⟨hrow, beq_iff_eq.mp hkind⟩, hid⟩
    · rw [if_neg hkind, List.mem_singleton] at hid
      rw [Table.isRow, beq_iff_eq] at hkind
      exact .inl ⟨hid ▸ hrow, hid ▸ hkind⟩
  · rintro (⟨hid, hkind⟩ | ⟨row, ⟨hrow, hkind⟩, hid⟩)
    · refine ⟨id, (hdoc.mem_children_iff part id).mpr hid, ?_⟩
      rw [Table.isRow, if_neg fun h => hkind (beq_iff_eq.mp h)]
      exact List.mem_singleton.mpr rfl
    · refine ⟨row, (hdoc.mem_children_iff part row).mpr hrow, ?_⟩
      rw [Table.isRow, if_pos (beq_iff_eq.mpr hkind)]
      exact hid

/-- What is left out of a section is left out of the table. -/
theorem leftOut_of_mem_skippedInSection
    (hpart : doc.IsChild root .tableHeader part ∨ doc.IsChild root .tableBody part)
    (hid : id ∈ doc.skippedInSection part) : doc.LeftOut root id := by
  rcases hdoc.mem_skippedInSection_iff.mp hid with ⟨hparent, hkind⟩ | ⟨row, hrow, hid⟩
  · exact .belowSection hpart hparent hkind
  · obtain ⟨hparent, hkind⟩ := hdoc.mem_skippedInRow_iff.mp hid
    refine .belowRow ?_ hparent hkind
    exact hpart.imp (⟨part, ·, hrow⟩) fun hbody => .inr ⟨part, hbody, hrow⟩

/-- **The skipped nodes** are those that do not belong into the table. -/
theorem mem_skipped_iff : id ∈ Table.skipped doc root ↔ doc.LeftOut root id := by
  have hmem : ∀ part, doc.parent? part = some root →
      id ∈ doc.skippedOf part → id ∈ Table.skipped doc root := by
    intro part hpart hid
    rw [Table.skipped_eq, List.mem_flatMap]
    exact ⟨part, (hdoc.mem_children_iff root part).mpr hpart, hid⟩
  have hsection : ∀ part, doc.IsChild root .tableHeader part ∨ doc.IsChild root .tableBody part →
      id ∈ doc.skippedInSection part → id ∈ Table.skipped doc root := by
    rintro part (⟨hpart, hkind⟩ | ⟨hpart, hkind⟩) hid
    · exact hmem part hpart (by rwa [skippedOf, hkind])
    · exact hmem part hpart (by rwa [skippedOf, hkind])
  constructor
  · intro hid
    rw [Table.skipped_eq, List.mem_flatMap] at hid
    obtain ⟨part, hpart, hid⟩ := hid
    rw [hdoc.mem_children_iff] at hpart
    unfold skippedOf at hid
    split at hid
    · next hkind => exact hdoc.leftOut_of_mem_skippedInSection (.inl ⟨hpart, hkind⟩) hid
    · next hkind => exact hdoc.leftOut_of_mem_skippedInSection (.inr ⟨hpart, hkind⟩) hid
    · next hkind =>
      obtain ⟨hparent, hcell⟩ := hdoc.mem_skippedInRow_iff.mp hid
      exact .belowRow (.inr (.inl ⟨hpart, hkind⟩)) hparent hcell
    · next hheader hbody hrow =>
      rw [List.mem_singleton] at hid
      rw [hid]
      exact .belowRoot hpart hheader hbody hrow
  · intro hid
    cases hid with
    | belowRoot hparent hheader hbody hrow =>
      refine hmem id hparent ?_
      unfold skippedOf
      split
      · next hkind => exact absurd hkind hheader
      · next hkind => exact absurd hkind hbody
      · next hkind => exact absurd hkind hrow
      · exact List.mem_singleton.mpr rfl
    | belowSection hpart hparent hkind =>
      exact hsection _ hpart (hdoc.mem_skippedInSection_iff.mpr (.inl ⟨hparent, hkind⟩))
    | belowRow hrow hparent hkind =>
      have hid := hdoc.mem_skippedInRow_iff.mpr ⟨hparent, hkind⟩
      rcases hrow with ⟨part, hpart, hrow⟩ | ⟨hrow, hkind⟩ | ⟨part, hpart, hrow⟩
      · exact hsection part (.inl hpart)
          (hdoc.mem_skippedInSection_iff.mpr (.inr ⟨_, hrow, hid⟩))
      · exact hmem _ hrow (by rwa [skippedOf, hkind])
      · exact hsection part (.inr hpart)
          (hdoc.mem_skippedInSection_iff.mpr (.inr ⟨_, hrow, hid⟩))

end Ordered

/-! ## Document order -/

-- What is found at a child of a root stays below this child, whatever the child is.
namespace StaysBelow

theorem filter_children (doc : Document) (p : NodeId → Bool) :
    doc.StaysBelow fun id => (doc.children id).filter p := by
  have hflatMap : ∀ l : List NodeId, l.filter p = l.flatMap fun id => if p id then [id] else [] := by
    intro l
    rw [← flatMap_filter, List.flatMap_singleton']
  simp only [hflatMap]
  exact ((singleton doc).ite p).children

theorem headerRowsOf (doc : Document) : doc.StaysBelow doc.headerRowsOf := by
  intro parent next id t h
  rw [Document.headerRowsOf]
  split
  · exact filter_children doc _ h
  · exact .nil

theorem bodyRowsOf (doc : Document) : doc.StaysBelow doc.bodyRowsOf := by
  intro parent next id t h
  rw [Document.bodyRowsOf]
  split
  · exact filter_children doc _ h
  · exact singleton doc h
  · exact .nil

theorem skippedInRow (doc : Document) : doc.StaysBelow doc.skippedInRow :=
  filter_children doc _

theorem skippedInSection (doc : Document) : doc.StaysBelow doc.skippedInSection := by
  refine StaysBelow.children fun parent next id t h => ?_
  split
  · exact skippedInRow doc h
  · exact singleton doc h

theorem skippedOf (doc : Document) : doc.StaysBelow doc.skippedOf := by
  intro parent next id t h
  rw [Document.skippedOf]
  split
  · exact skippedInSection doc h
  · exact skippedInSection doc h
  · exact skippedInRow doc h
  · exact singleton doc h

theorem skippedBlocks (doc : Document) : doc.StaysBelow doc.skippedBlocks := by
  intro parent next id t h
  rw [h.holds.skippedBlocks_eq]
  exact (metBlocks_staysBelow doc.size).children h

theorem cellSkips (doc : Document) :
    doc.StaysBelow fun id => (Table.cellSkips doc id).map Table.Skip.node := by
  intro parent next id t h
  dsimp only [Table.cellSkips]
  split
  · rw [List.map_map]
    exact (List.map_id _).symm ▸ skippedBlocks doc h
  · exact singleton doc h

theorem rowSkips (doc : Document) :
    doc.StaysBelow fun id => (Table.rowSkips doc id).map Table.Skip.node := by
  intro parent next id t h
  dsimp only [Table.rowSkips]
  split
  · rw [List.map_flatMap]
    exact (cellSkips doc).children h
  · exact singleton doc h

theorem partSkips (doc : Document) :
    doc.StaysBelow fun id => (Table.partSkips doc id).map Table.Skip.node := by
  intro parent next id t h
  dsimp only [Table.partSkips]
  split
  · rw [List.map_flatMap]
    exact (rowSkips doc).children h
  · rw [List.map_flatMap]
    exact (rowSkips doc).children h
  · exact rowSkips doc h
  · exact singleton doc h

end StaysBelow

end Document

/-- **The table below a node partitions what is looked at.** Its header has one row for each header
row, its body one for each body row, and in each row there is one entry for each cell: the spans of
the cell, all of them in document order. The log names the nodes that do not belong into the table,
each of them once, in document order. The number of columns is that of the longest row, or of the
alignments if there are more. -/
theorem ofNode_partitions (operations : List Builder.Operation) (root : NodeId) :
    let doc := (Builder.run operations).document
    let table := Table.ofNode doc root
    ∃ (headerRows bodyRows skipped : List NodeId) (cells : NodeId → List NodeId),
      (headerRows.Pairwise (· < ·) ∧ ∀ row, row ∈ headerRows ↔ doc.HeaderRow root row) ∧
      (bodyRows.Pairwise (· < ·) ∧ ∀ row, row ∈ bodyRows ↔ doc.BodyRow root row) ∧
      (∀ row, (cells row).Pairwise (· < ·) ∧
        ∀ cell, cell ∈ cells row ↔ doc.IsChild row .tableCell cell) ∧
      (skipped.Pairwise (· < ·) ∧ ∀ id, id ∈ skipped ↔ doc.LeftOut root id) ∧
      table.alignments = Table.alignmentsOf (doc.kind root) ∧
      table.header = headerRows.map (fun row => (cells row).map doc.spans) ∧
      table.rows = bodyRows.map (fun row => (cells row).map doc.spans) ∧
      Table.events doc root = skipped.map (fun id =>
        ⟨.debug, "Skipping non-table node inside table", [LogEvent.node id]⟩) ∧
      let lengths := table.alignments.length :: (table.header ++ table.rows).map List.length
      table.columnCount ∈ lengths ∧ ∀ n ∈ lengths, n ≤ table.columnCount := by
  intro doc table
  have hdoc : doc.Ordered := Builder.ordered_run operations
  have hpairwise : ∀ {f : NodeId → List NodeId}, doc.StaysBelow f →
      ((doc.children root).flatMap f).Pairwise (· < ·) := by
    have htree : doc = doc.tree.document := Builder.document_run operations
    intro f hf
    rw [htree] at hf ⊢
    exact hf.pairwise_flatMap_children root
  have hskipped : (Table.skipped doc root).Pairwise (· < ·) := by
    rw [Table.skipped_eq]
    exact hpairwise (.skippedOf doc)
  have htable : table = _ := congrArg Table.Gathered.value (Table.gather_eq doc root)
  refine ⟨doc.headerRows root, doc.bodyRows root, Table.skipped doc root, doc.rowCells,
    ⟨hpairwise (.headerRowsOf doc), fun _ => hdoc.mem_headerRows_iff⟩,
    ⟨hpairwise (.bodyRowsOf doc), fun _ => hdoc.mem_bodyRows_iff⟩,
    fun row => ⟨(hdoc.pairwise_children row).filter _, fun _ => hdoc.mem_rowCells_iff⟩,
    ⟨hskipped, fun _ => hdoc.mem_skipped_iff⟩, ?_, ?_, ?_, rfl,
    table.columnCount_spec⟩
  · rw [htable]
  · rw [htable]
    rfl
  · rw [htable]
    rfl

/-- **All that a table leaves out is logged in document order**, the blocks in its cells between the
nodes that do not belong into it. -/
theorem pairwise_gather_skips (operations : List Builder.Operation) (root : NodeId) :
    ((Table.gather (Builder.run operations).document root).skips.map Table.Skip.node).Pairwise
      (· < ·) := by
  rw [Builder.document_run operations, Table.gather_eq, List.map_flatMap]
  exact (Document.StaysBelow.partSkips _).pairwise_flatMap_children root

/-- A row and a text right below a root, next to a header with a row and a rule and to a body whose
row holds a code beside its cell. -/
example :
    let doc := (Builder.run [.openNode (.block (.tableRoot [.left])),
      .openNode (.block .tableHeader), .openNode (.block .tableRow), .leaf (.block .tableCell),
      .leaf (.block .tableCell), .close, .leaf (.block .thematicBreak), .close,
      .openNode (.block .tableRow), .close, .leaf (.inline (.text "x")),
      .openNode (.block .tableBody), .openNode (.block .tableRow), .leaf (.inline (.code "c")),
      .leaf (.block .tableCell)]).document
    Table.ofNode doc 1 = ⟨[.left], [[[], []]], [[], [[]]]⟩ ∧ (Table.ofNode doc 1).columnCount = 2 ∧
      Table.skipped doc 1 = [6, 8, 11] := by
  decide +kernel

end MarkdownTree
