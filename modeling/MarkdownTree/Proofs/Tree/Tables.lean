import MarkdownTree.Proofs.Tree.Spans
import MarkdownTree.Table

/-!
# Tables of a tree

The table below a node is gathered together with the nodes that are left out on the way. This module
takes the two apart, reads the table off the tree below the node, and looks at the trees that are a
table through and through.

* `Gathered.filterMapM_eq` — the value and the skips of a loop.
* `gather_eq` — the rows of the parts of a table in order, and what is left out of them.
* `Tree.table` — the table of a tree: header rows and body rows in order, all else left out.
* `Tree.tabular` — whether nothing in a tree is left out of its table.
* `Holds.table_eq`, `Holds.skips_eq_nil` — tables of documents are tables of trees.
* `columnCount_spec` — the number of columns is that of the longest row, or of the alignments.
-/

namespace MarkdownTree

/-! ## Values and skips -/

namespace Table

namespace Gathered

variable {α β : Type}

theorem bind_mk (a : α) (skips : List Skip) (f : α → Gathered β) :
    ((⟨a, skips⟩ : Gathered α) >>= f) = ⟨(f a).value, skips ++ (f a).skips⟩ := rfl

instance : LawfulMonad Gathered := LawfulMonad.mk' Gathered
  (fun m => by simp [Functor.map])
  (fun a f => by simp [Bind.bind, Pure.pure])
  (fun m f g => by simp [Bind.bind, List.append_assoc])

theorem map_mk (f : α → β) (a : α) (skips : List Skip) :
    f <$> (⟨a, skips⟩ : Gathered α) = ⟨f a, skips⟩ :=
  congrArg (Gathered.mk (f a)) (List.append_nil skips)

/-- A loop over some nodes of which the right ones give a value. It leaves out what its rounds do. -/
theorem filterMapM_eq {f : α → Gathered (Option β)} {p : α → Bool} {g : α → β} {s : α → List Skip}
    (h : ∀ a, f a = ⟨if p a then some (g a) else none, s a⟩) : ∀ l : List α,
    l.filterMapM f = ⟨(l.filter p).map g, l.flatMap s⟩
  | [] => rfl
  | a :: l => by
    rw [List.filterMapM_cons, h, filterMapM_eq h l, List.flatMap_cons]
    by_cases ha : p a = true
    · rw [if_pos ha, List.filter_cons_of_pos ha, List.map_cons]
      simp [bind_mk, Pure.pure]
    · rw [if_neg ha, List.filter_cons_of_neg ha]
      rfl

/-- A loop over a value, where what a round leaves out does not depend on the value. -/
theorem foldlM_eq {f : β → α → Gathered β} {g : β → α → β} {s : α → List Skip}
    (h : ∀ b a, f b a = ⟨g b a, s a⟩) : ∀ (l : List α) (b : β),
    l.foldlM f b = ⟨l.foldl g b, l.flatMap s⟩
  | [], _ => rfl
  | a :: l, b => by
    rw [List.foldlM_cons, h, bind_mk, foldlM_eq h l, List.foldl_cons, List.flatMap_cons]

end Gathered

end Table

/-! ## The parts of a table -/

namespace Document

/-- The rows of a section. -/
def sectionRows (doc : Document) (part : NodeId) : List NodeId :=
  (doc.children part).filter (Table.isRow doc)

/-- The header rows that a child of a table root adds. -/
def headerRowsOf (doc : Document) (part : NodeId) : List NodeId :=
  match doc.kind part with
  | .block .tableHeader => doc.sectionRows part
  | _ => []

/-- The body rows that a child of a table root adds. -/
def bodyRowsOf (doc : Document) (part : NodeId) : List NodeId :=
  match doc.kind part with
  | .block .tableBody => doc.sectionRows part
  | .block .tableRow => [part]
  | _ => []

/-- The header rows below a table root. -/
def headerRows (doc : Document) (root : NodeId) : List NodeId :=
  (doc.children root).flatMap doc.headerRowsOf

/-- The body rows below a table root. -/
def bodyRows (doc : Document) (root : NodeId) : List NodeId :=
  (doc.children root).flatMap doc.bodyRowsOf

end Document

namespace Table

/-- The cells of a row. -/
def rowCells (doc : Document) (row : NodeId) : List Cell :=
  ((doc.children row).filter (isCell doc)).map doc.spans

/-- What is left out at a child of a row. -/
def cellSkips (doc : Document) (id : NodeId) : List Skip :=
  if isCell doc id then (doc.skippedBlocks id).map .inCell else [.stray id]

/-- What is left out at a child of a section. -/
def rowSkips (doc : Document) (id : NodeId) : List Skip :=
  if isRow doc id then (doc.children id).flatMap (cellSkips doc) else [.stray id]

/-- What is left out at a child of a table root. -/
def partSkips (doc : Document) (id : NodeId) : List Skip :=
  match doc.kind id with
  | .block .tableHeader | .block .tableBody => (doc.children id).flatMap (rowSkips doc)
  | .block .tableRow => rowSkips doc id
  | _ => [.stray id]

variable (doc : Document)

theorem cell?_eq (id : NodeId) :
    cell? doc id = ⟨if isCell doc id then some (doc.spans id) else none, cellSkips doc id⟩ := by
  unfold cell? cellSkips
  split <;> rfl

theorem row?_eq (id : NodeId) :
    row? doc id = ⟨if isRow doc id then some (rowCells doc id) else none, rowSkips doc id⟩ := by
  unfold row? rowSkips
  split
  · rw [Gathered.filterMapM_eq (cell?_eq doc), Gathered.map_mk]
    rfl
  · rfl

/-- Each child of a table root appends its rows to a table. -/
def withPart (t : Table) (part : NodeId) : Table :=
  { t with
    header := t.header ++ (doc.headerRowsOf part).map (rowCells doc)
    rows := t.rows ++ (doc.bodyRowsOf part).map (rowCells doc) }

theorem addSection_eq (t : Table) (part : NodeId) :
    addSection doc t part = ⟨withPart doc t part, partSkips doc part⟩ := by
  have hrows := Gathered.filterMapM_eq (row?_eq doc) (doc.children part)
  unfold addSection withPart Document.headerRowsOf Document.bodyRowsOf Document.sectionRows partSkips
  split
  · next hkind => simp [hkind, hrows, Gathered.bind_mk, Pure.pure]
  · next hkind => simp [hkind, hrows, Gathered.bind_mk, Pure.pure]
  · next hkind => simp [hkind, row?_eq, isRow, Gathered.bind_mk, Pure.pure]
  · simp [skip]

theorem foldl_withPart (parts : List NodeId) (t : Table) :
    parts.foldl (withPart doc) t =
      { t with
        header := t.header ++ (parts.flatMap doc.headerRowsOf).map (rowCells doc)
        rows := t.rows ++ (parts.flatMap doc.bodyRowsOf).map (rowCells doc) } := by
  induction parts generalizing t with
  | nil => simp
  | cons part parts ih =>
    rw [List.foldl_cons, ih, withPart]
    simp

/-- **What is gathered below a node**: the header rows and the body rows, and what its children
leave out, in order. -/
theorem gather_eq (root : NodeId) :
    gather doc root =
      ⟨⟨alignmentsOf (doc.kind root), (doc.headerRows root).map (rowCells doc),
          (doc.bodyRows root).map (rowCells doc)⟩,
        (doc.children root).flatMap (partSkips doc)⟩ := by
  rw [gather, Gathered.foldlM_eq (addSection_eq doc), foldl_withPart, List.nil_append,
    List.nil_append]
  rfl

end Table

namespace Tree

/-- Whether a tree is a cell. -/
def isCell (t : Tree) : Bool :=
  t.kind == .block .tableCell

/-- Whether a tree is a row. -/
def isRow (t : Tree) : Bool :=
  t.kind == .block .tableRow

/-- The cells of a row. -/
def rowCells (row : Tree) : List Cell :=
  (row.children.filter isCell).map spans

/-- The rows of a section. -/
def sectionRows (t : Tree) : List (List Cell) :=
  (t.children.filter isRow).map rowCells

/-- The header rows that a child of a table root contributes. -/
def headerRows (t : Tree) : List (List Cell) :=
  match t.kind with
  | .block .tableHeader => t.sectionRows
  | _ => []

/-- The body rows that a child of a table root contributes. -/
def bodyRows (t : Tree) : List (List Cell) :=
  match t.kind with
  | .block .tableBody => t.sectionRows
  | .block .tableRow => [t.rowCells]
  | _ => []

/-- The table of a tree. -/
def table (t : Tree) : Table :=
  ⟨Table.alignmentsOf t.kind, t.children.flatMap headerRows, t.children.flatMap bodyRows⟩

/-- Whether a tree is a cell with nothing but inline content. -/
def tabularCell (t : Tree) : Bool :=
  t.isCell && allInline t.children

/-- Whether a tree is a row of nothing but such cells. -/
def tabularRow (t : Tree) : Bool :=
  t.isRow && t.children.all tabularCell

/-- Whether a tree may stand below a table root. -/
def tabularPart (t : Tree) : Bool :=
  match t.kind with
  | .block .tableHeader | .block .tableBody => t.children.all tabularRow
  | .block .tableRow => t.children.all tabularCell
  | _ => false

/-- Whether below a tree there is nothing that does not belong into a table. -/
def tabular (t : Tree) : Bool :=
  t.children.all tabularPart

end Tree

namespace Document.Holds

variable {doc : Document} {id : NodeId} {t : Tree}

theorem isCell_eq (h : doc.Holds id t) : Table.isCell doc id = t.isCell := by
  rw [Table.isCell, Tree.isCell, h.kind_eq]

theorem isRow_eq (h : doc.Holds id t) : Table.isRow doc id = t.isRow := by
  rw [Table.isRow, Tree.isRow, h.kind_eq]

theorem rowCells_eq (h : doc.Holds id t) : Table.rowCells doc id = t.rowCells :=
  map_eq_of_forall₂ (filter_of_forall₂ h.children fun _ _ hc => hc.isCell_eq)
    fun _ _ hc => hc.spans_eq

theorem sectionRows_eq (h : doc.Holds id t) :
    (doc.sectionRows id).map (Table.rowCells doc) = t.sectionRows :=
  map_eq_of_forall₂ (filter_of_forall₂ h.children fun _ _ hc => hc.isRow_eq)
    fun _ _ hc => hc.rowCells_eq

theorem headerRowsOf_eq (h : doc.Holds id t) :
    (doc.headerRowsOf id).map (Table.rowCells doc) = t.headerRows := by
  rw [headerRowsOf, Tree.headerRows, h.kind_eq, ← h.sectionRows_eq]
  split <;> rfl

theorem bodyRowsOf_eq (h : doc.Holds id t) :
    (doc.bodyRowsOf id).map (Table.rowCells doc) = t.bodyRows := by
  rw [bodyRowsOf, Tree.bodyRows, h.kind_eq, ← h.sectionRows_eq, ← h.rowCells_eq]
  split <;> rfl

/-- **The table below a node is the table of its tree.** -/
theorem table_eq (h : doc.Holds id t) : Table.ofNode doc id = t.table := by
  have hheader := map_eq_of_forall₂ h.children fun _ _ hc => hc.headerRowsOf_eq
  have hrows := map_eq_of_forall₂ h.children fun _ _ hc => hc.bodyRowsOf_eq
  rw [Table.ofNode, Table.gather_eq, h.kind_eq, Tree.table, headerRows, bodyRows, List.map_flatMap,
    List.map_flatMap, List.flatMap_def, List.flatMap_def, hheader, hrows]
  rfl

theorem cellSkips_eq_nil (h : doc.Holds id t) (hcell : t.tabularCell = true) :
    Table.cellSkips doc id = [] := by
  rw [Tree.tabularCell, Bool.and_eq_true] at hcell
  rw [Table.cellSkips, h.isCell_eq, if_pos hcell.1, h.skippedBlocks_eq_nil hcell.2, List.map_nil]

theorem rowSkips_eq_nil (h : doc.Holds id t) (hrow : t.tabularRow = true) :
    Table.rowSkips doc id = [] := by
  rw [Tree.tabularRow, Bool.and_eq_true] at hrow
  rw [Table.rowSkips, h.isRow_eq, if_pos hrow.1, List.flatMap_eq_nil_iff]
  intro c hc
  obtain ⟨u, hu, hcu⟩ := h.exists_child hc
  exact hcu.cellSkips_eq_nil (List.all_eq_true.mp hrow.2 u hu)

theorem partSkips_eq_nil (h : doc.Holds id t) (hpart : t.tabularPart = true) :
    Table.partSkips doc id = [] := by
  have hsection : t.children.all Tree.tabularRow = true →
      (doc.children id).flatMap (Table.rowSkips doc) = [] := by
    intro hrows
    rw [List.flatMap_eq_nil_iff]
    intro c hc
    obtain ⟨u, hu, hcu⟩ := h.exists_child hc
    exact hcu.rowSkips_eq_nil (List.all_eq_true.mp hrows u hu)
  rw [Table.partSkips, h.kind_eq]
  obtain ⟨k, cs⟩ := t
  cases k with
  | inline i => cases hpart
  | block b =>
    cases b with
    | tableHeader => exact hsection hpart
    | tableBody => exact hsection hpart
    | tableRow => exact h.rowSkips_eq_nil hpart
    | _ => cases hpart

/-- **Nothing is left out of the table of a tabular tree**, not even inside of its cells. -/
theorem skips_eq_nil (h : doc.Holds id t) (htab : t.tabular = true) :
    (Table.gather doc id).skips = [] := by
  rw [Table.gather_eq, List.flatMap_eq_nil_iff]
  intro c hc
  obtain ⟨u, hu, hcu⟩ := h.exists_child hc
  exact hcu.partSkips_eq_nil (List.all_eq_true.mp htab u hu)

theorem skipped_eq_nil (h : doc.Holds id t) (htab : t.tabular = true) :
    Table.skipped doc id = [] := by
  rw [Table.skipped, h.skips_eq_nil htab, List.filterMap_nil]

end Document.Holds

/-! ## Columns -/

namespace Table

/-- The number of columns is a maximum. -/
theorem max?_columnCount (t : Table) :
    (t.alignments.length :: (t.header ++ t.rows).map List.length).max? = some t.columnCount := by
  rw [List.max?_cons']
  rfl

/-- No row is longer than the number of columns, and neither is the list of alignments, but one of
them is as long. -/
theorem columnCount_spec (t : Table) :
    let lengths := t.alignments.length :: (t.header ++ t.rows).map List.length
    t.columnCount ∈ lengths ∧ ∀ n ∈ lengths, n ≤ t.columnCount :=
  List.max?_eq_some_iff.mp t.max?_columnCount

end Table

end MarkdownTree
