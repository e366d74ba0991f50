import MarkdownTree.Proofs.Assembly.Contribution
import MarkdownTree.Proofs.Assembly.Kept
import MarkdownTree.Proofs.Render.Clean
import MarkdownTree.Proofs.Tree.Fragments

/-!
# Tables as they come

The events of a table become a table root with a header and a body, and the table that is gathered
from it has the same cells in the same rows. No event stands for the row of the header or for the
body; these are opened and closed along with others.

* `EventTree.fragments`, `EventTree.cell` — what inline events show, and the events of a cell.
* `fragments_of_isInline`, `spans_cellTree` — the assembled nodes show the same.
* `table_of_isTable` — the table of the tree that the events of a table stand for.
* `assemble_table` — the table of a document, wherever the events occur.
-/

namespace MarkdownTree

namespace EventTree

/-- What a tag encloses. -/
def content : EventTree → List EventTree
  | leaf _ _ => []
  | element _ _ _ content => content

mutual

/-- The inline leaves among some inline events, with the tags around each, innermost first. -/
def fragments (around : List Inline) : EventTree → List Fragment
  | leaf e _ => e.inline?.toList.map fun i => ⟨i, around⟩
  | element tag _ _ content =>
    match tag.role with
    | .inline i => fragmentsAll (i :: around) content
    | _ => []

/-- The same for a forest. -/
def fragmentsAll (around : List Inline) : List EventTree → List Fragment
  | [] => []
  | t :: ts => t.fragments around ++ fragmentsAll around ts

end

/-- What the events of a cell show: the maximal runs of fragments that look the same. -/
def cell (t : EventTree) : Cell :=
  (Span.runs ((fragmentsAll [] t.content).map Fragment.span)).map Span.joined

/-- The tree that a cell becomes. -/
def cellTree (t : EventTree) : Tree :=
  .fill (.block .tableCell) (piecesAll t.content)

/-- The tree that the cells of a row become. -/
def rowTree (cells : List EventTree) : Tree :=
  .fill (.block .tableRow) (piecesAll cells)

end EventTree

open EventTree

/-! ## Cells -/

theorem Event.isContainer_of_inline? {e : Event} {i : Inline} (h : e.inline? = some i) :
    i.isContainer = false := by
  cases e with
  | start tag => cases h
  | stop => cases h
  | rule => cases h
  | _ =>
    cases h
    rfl

mutual

/-- **Inline events become a tree with the same fragments.** -/
theorem fragments_of_isInline : ∀ {t : EventTree}, t.isInline = true →
    ∃ u, t.pieces = [.inline u] ∧ ∀ around, u.fragments around = t.fragments around
  | leaf e range, h => by
    obtain ⟨i, hi⟩ := Option.isSome_iff_exists.mp h
    obtain ⟨hpieces, -⟩ := Event.pieces_of_inline? hi
    refine ⟨.node (.inline i) [], hpieces, fun around => ?_⟩
    rw [Tree.fragments, Event.isContainer_of_inline? hi, EventTree.fragments, hi]
    rfl
  | element tag _ _ content, h => by
    rw [EventTree.isInline] at h
    split at h
    · next i hr =>
      have hcontainer := Tag.isContainer_of_role hr
      obtain ⟨us, hus, hfragments⟩ := fragmentsAll_of_allInline h
      refine ⟨.node (.inline i) us, ?_, fun around => ?_⟩
      · rw [pieces, hr, hus]
        simp only [Tree.fill_inline (.inline i) hcontainer]
      · rw [Tree.fragments, if_pos hcontainer, hfragments, EventTree.fragments, hr]
    · cases h

theorem fragmentsAll_of_allInline : ∀ {ts : List EventTree}, allInline ts = true →
    ∃ us, piecesAll ts = us.map .inline ∧
      ∀ around, Tree.fragmentsAll around us = fragmentsAll around ts
  | [], _ => ⟨[], rfl, fun _ => rfl⟩
  | t :: ts, h => by
    rw [EventTree.allInline, Bool.and_eq_true] at h
    obtain ⟨u, hu, hfragments⟩ := fragments_of_isInline h.1
    obtain ⟨us, hus, hfragmentsAll⟩ := fragmentsAll_of_allInline h.2
    refine ⟨u :: us, by rw [piecesAll, hu, hus]; rfl, fun around => ?_⟩
    rw [Tree.fragmentsAll, hfragments, hfragmentsAll, EventTree.fragmentsAll]

end

theorem pieces_cell {t : EventTree} (h : t.isCell = true) :
    t.pieces = [.block t.cellTree] ∧ allInline t.content = true := by
  unfold EventTree.isCell at h
  split at h
  · exact ⟨rfl, h⟩
  · cases h

theorem tabularCell_cellTree {t : EventTree} (h : t.isCell = true) :
    t.cellTree.tabularCell = true := by
  obtain ⟨u, hu, hcell, -⟩ := pieces_of_isCell h
  rw [(pieces_cell h).1] at hu
  cases hu
  exact hcell

/-- **The spans of a cell are what its events show.** -/
theorem spans_cellTree {t : EventTree} (h : t.isCell = true) : t.cellTree.spans = t.cell := by
  obtain ⟨us, hus, hfragments⟩ := fragmentsAll_of_allInline (pieces_cell h).2
  have htree : t.cellTree = .node (.block .tableCell) us := by
    rw [cellTree, hus, Tree.fill_inline _ rfl]
  rw [htree, Tree.spans_eq_merge, Tree.children, hfragments, Span.merge_eq_map_joined, cell]

/-! ## Rows -/

/-- Where each tree becomes one block, so many blocks come out. -/
theorem piecesAll_eq_map_block {f : EventTree → Tree} : ∀ {ts : List EventTree},
    (∀ t ∈ ts, t.pieces = [.block (f t)]) → piecesAll ts = (ts.map f).map .block
  | [], _ => rfl
  | t :: ts, h => by
    obtain ⟨ht, hts⟩ := List.forall_mem_cons.mp h
    rw [piecesAll, ht, piecesAll_eq_map_block hts]
    rfl

/-- A row has one entry for each cell. -/
theorem rowCells_rowTree {cells : List EventTree} (h : cells.all isCell = true) :
    (rowTree cells).rowCells = cells.map cell := by
  have hmem := List.all_eq_true.mp h
  have hpieces := piecesAll_eq_map_block fun t ht => (pieces_cell (hmem t ht)).1
  have hfilter : (cells.map cellTree).filter Tree.isCell = cells.map cellTree := by
    refine List.filter_eq_self.mpr (List.forall_mem_map.mpr fun t ht => ?_)
    have hcell := tabularCell_cellTree (hmem t ht)
    rw [Tree.tabularCell, Bool.and_eq_true] at hcell
    exact hcell.1
  rw [rowTree, hpieces, Tree.fill_block _ rfl, Tree.rowCells, Tree.children, hfilter, List.map_map]
  exact List.map_congr_left fun t ht => spans_cellTree (hmem t ht)

theorem pieces_row {t : EventTree} (h : t.isRow = true) :
    t.pieces = [.block (rowTree t.content)] ∧ t.content.all isCell = true := by
  unfold EventTree.isRow at h
  split at h
  · exact ⟨rfl, h⟩
  · cases h

/-! ## Tables -/

/-- The tree that the content of a table becomes. -/
def tableTree (alignments : List Alignment) (content : List EventTree) : Tree :=
  .node (.block (.tableRoot alignments))
    (Tree.tableParts ((piecesAll content).filterMap Piece.tree?))

/-- **The table that the events of a table stand for**: one header row, the body rows in order, and
one entry for each cell. -/
theorem table_of_isTable {cells rows : List EventTree} (hcells : cells.all isCell = true)
    (hrows : rows.all isRow = true) (alignments : List Alignment)
    (opening closing : SourceRange) :
    (tableTree alignments (element .tableHead opening closing cells :: rows)).table =
      ⟨alignments, [cells.map cell], rows.map fun row => row.content.map cell⟩ := by
  have hmem := List.all_eq_true.mp hrows
  have hparts : (piecesAll (element .tableHead opening closing cells :: rows)).filterMap
      Piece.tree? =
        .node (.block .tableHeader) [rowTree cells] :: rows.map fun row => rowTree row.content := by
    have hpieces := piecesAll_eq_map_block fun row hrow => (pieces_row (hmem row hrow)).1
    rw [piecesAll, hpieces, pieces]
    simp only [Tag.role, List.cons_append, List.nil_append]
    rw [List.filterMap_cons_some (by rfl), Piece.filterMap_tree?_block]
    rfl
  have hhead : (rowTree cells).tabularRow = true := (fill_of_isCell hcells).1
  have hbody : (rows.map fun row => rowTree row.content).all Tree.tabularRow = true := by
    rw [List.all_eq_true]
    refine List.forall_mem_map.mpr fun row hrow => ?_
    exact (fill_of_isCell (pieces_row (hmem row hrow)).2).1
  rw [tableTree, hparts, Tree.table_tableParts hhead hbody, rowCells_rowTree hcells, List.map_map]
  refine congrArg (Table.mk alignments _) (List.map_congr_left fun row hrow => ?_)
  exact rowCells_rowTree (pieces_row (hmem row hrow)).2

/-! ## Tables of documents -/

theorem getElem?_of_forall₂ {α β : Type} {R : α → β → Prop} {l : List α} {l' : List β}
    (h : List.Forall₂ R l l') : ∀ {n : Nat} {b : β}, l'[n]? = some b →
      ∃ a, l[n]? = some a ∧ R a b := by
  induction h with
  | nil =>
    intro n b hb
    cases hb
  | cons hab _ ih =>
    intro n b hb
    cases n with
    | zero =>
      cases hb
      exact ⟨_, rfl, hab⟩
    | succ n => exact ih hb

theorem getElem?_filter_countP {α : Type} {p : α → Bool} {a : α} (ha : p a = true)
    (pre post : List α) : ((pre ++ a :: post).filter p)[pre.countP p]? = some a := by
  rw [List.filter_append, List.filter_cons_of_pos ha, List.countP_eq_length_filter,
    List.getElem?_append_right (Nat.le_refl _), Nat.sub_self, List.getElem?_cons_zero]

/-- What is gathered from a table does not depend on marks, and definitions have no place in it. -/
theorem Document.exists_tableRoot (before after : List Located) (definitions : List Definition)
    (fadeOut : Bool) (alignments : List Alignment) (opening closing : SourceRange)
    {content : List EventTree} (h : isTable content = true) :
    let doc := Document.assemble (before ++
      (element (.table alignments) opening closing content).events ++ after) definitions fadeOut
    ∃ id, (doc.iter.filter fun id => (doc.kind id).isTableRoot)[
        before.countP fun e => e.event.startsTable]? = some id ∧
      doc.Holds id (tableTree alignments content) := by
  intro doc
  obtain ⟨pre, post, hsubtrees, hcount⟩ := exists_subtrees_of_table before after alignments
    opening closing (tableNested_of_isTable h)
  obtain ⟨t, hdoc, -, henriches, -⟩ := exists_marked (before ++
    (element (.table alignments) opening closing content).events ++ after) definitions fadeOut
  have hplain : ∀ k : NodeKind, k.plain.isTableRoot = k.isTableRoot :=
    NodeKind.apply_plain fun _ => rfl
  have hdef : ∀ k : NodeKind, k.isDefinition = true → k.isTableRoot = false := by
    intro k hk
    unfold NodeKind.isDefinition at hk
    split at hk
    · rfl
    · cases hk
  have hroot := getElem?_filter_countP (p := fun u : Tree => u.kind.isTableRoot)
    (a := tableTree alignments content) rfl pre post
  rw [hcount] at hroot
  have henriched := henriches.forall₂_subtrees hplain hdef
  rw [hsubtrees] at henriched
  obtain ⟨u, hu, htable⟩ := getElem?_of_forall₂ henriched hroot
  -- below a table root there are neither paragraphs nor places for definitions
  have hrigid : (tableTree alignments content).rigid = true := by
    have hparts := Tree.allRigid_of_tabularPart (tableParts_of_isTable h).1
    rw [tableTree, Tree.rigid, hparts]
    rfl
  rw [htable.eq_of_rigid hrigid] at hu
  have hholds := filter_of_forall₂ t.forall₂_holds_document
    (p := fun id => (t.document.kind id).isTableRoot) (q := fun u => u.kind.isTableRoot)
    fun id u hid => by rw [hid.kind_eq]
  have hdocument : doc = t.document := hdoc
  rw [hdocument]
  exact getElem?_of_forall₂ hholds hu

/-- **Tables come out as they go in.** Wherever the events of a table occur, and whatever
definitions are inserted, the table root has the alignments of the table, one header row, and the body rows in
order. In each row there is one entry for each cell: what the events of the cell show. Nothing is
logged as left out, and there are as many columns as alignments or as cells in the longest row,
whichever is more. -/
theorem assemble_table (before after : List Located) (definitions : List Definition)
    (fadeOut : Bool) (alignments : List Alignment)
    (opening closing headOpening headClosing : SourceRange) (cells rows : List EventTree)
    (hcells : cells.all isCell = true) (hrows : rows.all isRow = true) :
    let head := element .tableHead headOpening headClosing cells
    let events := (element (.table alignments) opening closing (head :: rows)).events
    let doc := Document.assemble (before ++ events ++ after) definitions fadeOut
    ∃ id, (doc.iter.filter fun id => (doc.kind id).isTableRoot)[
        before.countP fun e => e.event.startsTable]? = some id ∧
      doc.kind id = .block (.tableRoot alignments) ∧
      Table.ofNode doc id =
        ⟨alignments, [cells.map cell], rows.map fun row => row.content.map cell⟩ ∧
      Table.skipped doc id = [] ∧
      (Call.table id).events doc = [] ∧
      (alignments.length :: cells.length :: rows.map fun row => row.content.length).max? =
        some (Table.ofNode doc id).columnCount := by
  intro head events doc
  have htable : isTable (head :: rows) = true := by
    rw [isTable, hcells, hrows]
    rfl
  obtain ⟨id, hid, hholds⟩ := Document.exists_tableRoot before after definitions fadeOut
    alignments opening closing htable
  have htabular : (tableTree alignments (head :: rows)).tabular = true :=
    (tableParts_of_isTable htable).1
  have hgathered : Table.ofNode doc id =
      ⟨alignments, [cells.map cell], rows.map fun row => row.content.map cell⟩ := by
    rw [hholds.table_eq]
    exact table_of_isTable hcells hrows alignments headOpening headClosing
  refine ⟨id, hid, hholds.kind_eq, hgathered, hholds.skipped_eq_nil htabular,
    hholds.events_table_eq_nil htabular, ?_⟩
  rw [← Table.max?_columnCount, hgathered]
  simp [Function.comp_def]

/-- A table in an item whose text it ends, with a header of two cells, a row without cells and one
that is longer than the header. -/
theorem assemble_table_in_item :
    let range : SourceRange := ⟨4, 9⟩
    let cells : List EventTree := [
      .element .tableCell range range [.element .strong range range [.leaf (.text "h") range]],
      .element .tableCell range range []]
    let rows : List EventTree := [
      .element .tableRow range range [],
      .element .tableRow range range [
        .element .tableCell range range [.leaf (.code "c") range],
        .element .tableCell range range [.leaf (.text "d") range, .leaf (.text "e") range],
        .element .tableCell range range []]]
    let before : List Located :=
      [⟨.start (.list none), 0, 9⟩, ⟨.start .item, 0, 9⟩, ⟨.text "a", 2, 3⟩]
    let after : List Located := [⟨.stop, 0, 9⟩, ⟨.stop, 0, 9⟩]
    let head := element .tableHead range range cells
    let events := (element (.table [.left]) range range (head :: rows)).events
    let doc := Document.assemble (before ++ events ++ after) [⟨"x", "/u", none, 3⟩] true
    cells.all isCell = true ∧ rows.all isRow = true ∧
      ∃ id, (doc.iter.filter fun id => (doc.kind id).isTableRoot)[0]? = some id ∧
        Table.ofNode doc id = ⟨[.left], [[[⟨"h", { strong := true }, none⟩], []]],
          [[], [[⟨"c", { code := true }, none⟩], [⟨"de", {}, none⟩], []]]⟩ ∧
        (Table.ofNode doc id).columnCount = 3 := by
  intro range cells rows before after head events doc
  have hcells : cells.all isCell = true := by decide
  have hrows : rows.all isRow = true := by decide
  obtain ⟨id, hid, -, htable, -, -, hcount⟩ := assemble_table before after
    [⟨"x", "/u", none, 3⟩] true [.left] range range range range cells rows hcells hrows
  have hwidest : ([Alignment.left].length :: cells.length ::
      rows.map fun row => row.content.length).max? = some 3 := by decide
  refine ⟨hcells, hrows, id, hid, htable.trans (by decide +kernel), ?_⟩
  rw [hwidest] at hcount
  exact (Option.some.inj hcount).symm

end MarkdownTree
