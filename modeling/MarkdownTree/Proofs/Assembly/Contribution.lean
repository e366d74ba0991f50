import MarkdownTree.Proofs.Assembly.Grammar
import MarkdownTree.Proofs.Layout.Shown

/-!
# What events contribute to what is shown

A forest of the block grammar stands for a clean tree, and the tree has everything to be shown that
the events contribute: the text of the inline leaves, and the code and HTML blocks.

* `EventTree.shown` — what a tree of events contributes.
* `pieces_of_isInline`, `tableParts_of_isTable`, `pieces_of_isBlock` — what becomes of inline
  content, of tables and of blocks.
* `clean_translate` — what becomes of a whole forest.
-/

namespace MarkdownTree

/-- The text that a leaf event contributes. -/
def Event.contribution : Event → String
  | .text s | .code s | .inlineMath s | .displayMath s | .html s | .inlineHtml s => s
  | .footnoteReference label => "[" ++ label ++ "]"
  | .softBreak => " "
  | .hardBreak => "\n"
  | .taskMarker checked => if checked then "[x] " else "[ ] "
  | .start _ | .stop | .rule => ""

/-- The block that a code or HTML block with some text is shown as. -/
def LiteralKind.layoutBlock : LiteralKind → String → LayoutBlock
  | .indented, text => .code none (Pass.codeText text)
  | .fenced info, text => .code (Pass.fenceLanguage info) (Pass.codeText text)
  | .html, text => .html text

namespace EventTree

mutual

/-- What a tree contributes: the text of its leaves, and code and HTML blocks. -/
def shown : EventTree → Shown
  | leaf e _ => .ofText e.contribution
  | element tag _ _ content =>
    match tag.role with
    | .literal kind => .ofLiteral (kind.layoutBlock (literalText content))
    | _ => shownAll content

/-- What a forest contributes, in order. -/
def shownAll : List EventTree → Shown
  | [] => .none
  | t :: ts => t.shown ++ shownAll ts

end

end EventTree

open EventTree

/-! ## Inline content -/

theorem Tag.isContainer_of_role {tag : Tag} {i : Inline} (h : tag.role = .inline i) :
    i.isContainer = true := by
  cases tag with
  | list start => cases start <;> cases h
  | _ => cases h <;> rfl

theorem Piece.filterMap_tree?_inline (us : List Tree) :
    (us.map Piece.inline).filterMap Piece.tree? = us := by
  rw [List.filterMap_map]
  exact List.filterMap_some

theorem Piece.filterMap_tree?_block (us : List Tree) :
    (us.map Piece.block).filterMap Piece.tree? = us := by
  rw [List.filterMap_map]
  exact List.filterMap_some

theorem Piece.wrapRuns_block (us : List Tree) : Piece.wrapRuns [] (us.map Piece.block) = us := by
  induction us with
  | nil => rfl
  | cons u us ih =>
    rw [List.map_cons, wrapRuns, ih]
    rfl

theorem Tree.fill_inline (kind : NodeKind) (h : kind.acceptsInline = true) (us : List Tree) :
    Tree.fill kind (us.map Piece.inline) = .node kind us := by
  rw [fill, if_pos h, Piece.filterMap_tree?_inline]

theorem Tree.fill_block (kind : NodeKind) (h : kind.acceptsInline = false) (us : List Tree) :
    Tree.fill kind (us.map Piece.block) = .node kind us := by
  rw [fill, if_neg (by simp [h]), Piece.wrapRuns_block]

/-- An inline leaf is one inline node with the text that the event contributes. -/
theorem Event.pieces_of_inline? {e : Event} {i : Inline} (h : e.inline? = some i) :
    e.pieces = [.inline (.node (.inline i) [])] ∧
      (Tree.node (.inline i) []).text = e.contribution := by
  cases e with
  | start tag => cases h
  | stop => cases h
  | rule => cases h
  | _ =>
    cases h
    exact ⟨rfl, rfl⟩

mutual

/-- Inline content becomes one inline tree with the same text. -/
theorem pieces_of_isInline : ∀ {t : EventTree}, t.isInline = true →
    ∃ u, t.pieces = [.inline u] ∧ u.isInline = true ∧ .ofText u.text = t.shown
  | leaf e _, h => by
    obtain ⟨i, hi⟩ := Option.isSome_iff_exists.mp h
    obtain ⟨hpieces, htext⟩ := Event.pieces_of_inline? hi
    exact ⟨_, hpieces, rfl, congrArg _ htext⟩
  | element tag _ _ content, h => by
    rw [EventTree.isInline] at h
    split at h
    · next i hr =>
      have hcontainer := Tag.isContainer_of_role hr
      obtain ⟨us, hus, hinline, htexts⟩ := piecesAll_of_allInline h
      refine ⟨.node (.inline i) us, ?_, hinline, ?_⟩
      · rw [pieces, hr, hus]
        simp only [Tree.fill_inline (.inline i) hcontainer]
      · rw [Tree.text, if_pos hcontainer, htexts, EventTree.shown, hr]
    · cases h

theorem piecesAll_of_allInline : ∀ {ts : List EventTree}, allInline ts = true →
    ∃ us, piecesAll ts = us.map .inline ∧ Tree.allInline us = true ∧
      .ofText (Tree.texts us) = shownAll ts
  | [], _ => ⟨[], rfl, rfl, rfl⟩
  | t :: ts, h => by
    rw [EventTree.allInline, Bool.and_eq_true] at h
    obtain ⟨u, hu, hinline, htext⟩ := pieces_of_isInline h.1
    obtain ⟨us, hus, hinlines, htexts⟩ := piecesAll_of_allInline h.2
    refine ⟨u :: us, by rw [piecesAll, hu, hus]; rfl, ?_, ?_⟩
    · rw [Tree.allInline, hinline, hinlines]
      rfl
    · rw [Tree.texts, Shown.ofText_append, htext, htexts, EventTree.shownAll]

end

/-- A block with inline content. -/
theorem block_of_allInline (kind : NodeKind) (hkind : kind.acceptsInline = true)
    {ts : List EventTree} (h : allInline ts = true) :
    ∃ us : List Tree, [Piece.block (.fill kind (piecesAll ts))] = [.block (.node kind us)] ∧
      Tree.allInline us = true ∧ .ofText (Tree.texts us) = shownAll ts := by
  obtain ⟨us, hus, hinline, htexts⟩ := piecesAll_of_allInline h
  exact ⟨us, by rw [hus, Tree.fill_inline kind hkind], hinline, htexts⟩

/-! ## Tables -/

/-- A cell becomes one cell. -/
theorem pieces_of_isCell : ∀ {t : EventTree}, t.isCell = true →
    ∃ u, t.pieces = [.block u] ∧ u.tabularCell = true ∧
      .ofText (Span.plainText u.spans) = t.shown
  | element .tableCell _ _ content, h => by
    obtain ⟨us, hus, hinline, htexts⟩ := block_of_allInline (.block .tableCell) rfl h
    refine ⟨.node (.block .tableCell) us, hus, hinline, ?_⟩
    rw [Tree.plainText_spans]
    exact htexts

theorem piecesAll_of_isCell : ∀ {cells : List EventTree}, cells.all isCell = true →
    ∃ us : List Tree, piecesAll cells = us.map .block ∧ us.all Tree.tabularCell = true ∧
      .ofText (String.join ((us.map Tree.spans).map Span.plainText)) = shownAll cells
  | [], _ => ⟨[], rfl, rfl, rfl⟩
  | t :: cells, h => by
    rw [List.all_cons, Bool.and_eq_true] at h
    obtain ⟨u, hu, hcell, htext⟩ := pieces_of_isCell h.1
    obtain ⟨us, hus, hcells, htexts⟩ := piecesAll_of_isCell h.2
    refine ⟨u :: us, by rw [piecesAll, hu, hus]; rfl, ?_, ?_⟩
    · rw [List.all_cons, hcell, hcells]
      rfl
    · rw [List.map_cons, List.map_cons, String.join_cons, Shown.ofText_append, htext, htexts,
        EventTree.shownAll]

/-- Cells become one row. -/
theorem fill_of_isCell {cells : List EventTree} (h : cells.all isCell = true) :
    (Tree.fill (.block .tableRow) (piecesAll cells)).tabularRow = true ∧
      .ofText (String.join
        ((Tree.fill (.block .tableRow) (piecesAll cells)).rowCells.map Span.plainText)) =
          shownAll cells := by
  obtain ⟨us, hus, hcells, htexts⟩ := piecesAll_of_isCell h
  have hfilter : us.filter Tree.isCell = us :=
    List.filter_eq_self.mpr fun u hu => by
      have hcell := List.all_eq_true.mp hcells u hu
      rw [Tree.tabularCell, Bool.and_eq_true] at hcell
      exact hcell.1
  rw [hus, Tree.fill_block _ rfl]
  refine ⟨hcells, ?_⟩
  rw [← htexts, Tree.rowCells, Tree.children, hfilter]

theorem piecesAll_of_isRow : ∀ {rows : List EventTree}, rows.all isRow = true →
    ∃ us : List Tree, piecesAll rows = us.map .block ∧ us.all Tree.tabularRow = true ∧
      .ofText (String.join ((us.map Tree.rowCells).flatten.map Span.plainText)) = shownAll rows
  | [], _ => ⟨[], rfl, rfl, rfl⟩
  | element .tableRow _ _ cells :: rows, h => by
    rw [List.all_cons, Bool.and_eq_true] at h
    obtain ⟨hrow, htext⟩ := fill_of_isCell h.1
    obtain ⟨us, hus, hrows, htexts⟩ := piecesAll_of_isRow h.2
    refine ⟨.fill (.block .tableRow) (piecesAll cells) :: us, ?_, ?_, ?_⟩
    · rw [piecesAll, hus]
      rfl
    · rw [List.all_cons, hrow, hrows]
      rfl
    · rw [List.map_cons, List.flatten_cons, List.map_append, String.join_append,
        Shown.ofText_append, htext, htexts]
      rfl

/-- The rows of a section that holds nothing but rows. -/
theorem Tree.sectionRows_of_tabularRow {kind : NodeKind} {us : List Tree}
    (h : us.all Tree.tabularRow = true) :
    (Tree.node kind us).sectionRows = us.map Tree.rowCells := by
  have hfilter : us.filter Tree.isRow = us :=
    List.filter_eq_self.mpr fun u hu => by
      have hrow := List.all_eq_true.mp h u hu
      rw [Tree.tabularRow, Bool.and_eq_true] at hrow
      exact hrow.1
  rw [Tree.sectionRows, Tree.children, hfilter]

/-- A head and rows as the children of a table root. -/
theorem Tree.tabularPart_tableParts {u : Tree} {us : List Tree} (hu : u.tabularRow = true)
    (hus : us.all Tree.tabularRow = true) :
    (Tree.tableParts (.node (.block .tableHeader) [u] :: us)).all Tree.tabularPart = true := by
  have hhead : (Tree.node (.block .tableHeader) [u]).tabularPart = true := by
    simp [tabularPart, kind, children, hu]
  cases us with
  | nil =>
    show [Tree.node (.block .tableHeader) [u]].all Tree.tabularPart = true
    rw [List.all_cons, hhead]
    rfl
  | cons row us =>
    have hbody : (Tree.node (.block .tableBody) (row :: us)).tabularPart = true := hus
    rw [tableParts, List.all_cons, hhead, List.all_cons, hbody]
    rfl

/-- The table of a header row and body rows. -/
theorem Tree.table_tableParts {u : Tree} {us : List Tree} (hu : u.tabularRow = true)
    (hus : us.all Tree.tabularRow = true) (alignments : List Alignment) :
    (Tree.node (.block (.tableRoot alignments))
      (Tree.tableParts (.node (.block .tableHeader) [u] :: us))).table =
      ⟨alignments, [u.rowCells], us.map Tree.rowCells⟩ := by
  have hhead : [u].all Tree.tabularRow = true := by simp [hu]
  cases us with
  | nil =>
    have hparts : tableParts [.node (.block .tableHeader) [u]] =
        [.node (.block .tableHeader) [u]] := rfl
    simp [hparts, table, headerRows, bodyRows, kind, children, sectionRows_of_tabularRow hhead,
      Table.alignmentsOf]
  | cons row us =>
    simp [tableParts, table, headerRows, bodyRows, kind, children, Table.alignmentsOf,
      sectionRows_of_tabularRow hhead, sectionRows_of_tabularRow hus]

/-- The text of the head comes first and that of the rows after. -/
theorem Tree.text_tableParts {u : Tree} {us : List Tree} (hu : u.tabularRow = true)
    (hus : us.all Tree.tabularRow = true) (alignments : List Alignment) :
    (Tree.node (.block (.tableRoot alignments))
      (Tree.tableParts (.node (.block .tableHeader) [u] :: us))).table.text =
      String.join (u.rowCells.map Span.plainText) ++
        String.join ((us.map Tree.rowCells).flatten.map Span.plainText) := by
  rw [Tree.table_tableParts hu hus, Table.text, List.flatten_append, List.map_append,
    String.join_append, List.flatten_singleton]

/-- The content of a table becomes the parts of one tabular tree. -/
theorem tableParts_of_isTable : ∀ {content : List EventTree}, isTable content = true →
    (Tree.tableParts ((piecesAll content).filterMap Piece.tree?)).all Tree.tabularPart = true ∧
      ∀ alignments : List Alignment,
        .ofText (Tree.node (.block (.tableRoot alignments))
          (Tree.tableParts ((piecesAll content).filterMap Piece.tree?))).table.text =
            shownAll content
  | element .tableHead opening closing cells :: rows, h => by
    rw [isTable, Bool.and_eq_true] at h
    obtain ⟨hrow, htext⟩ := fill_of_isCell h.1
    obtain ⟨us, hus, hrows, htexts⟩ := piecesAll_of_isRow h.2
    have hparts : (piecesAll (element .tableHead opening closing cells :: rows)).filterMap
        Piece.tree? =
          .node (.block .tableHeader) [.fill (.block .tableRow) (piecesAll cells)] :: us := by
      rw [piecesAll, hus, pieces]
      simp only [Tag.role, List.cons_append, List.nil_append]
      rw [List.filterMap_cons_some (by rfl), Piece.filterMap_tree?_block]
    rw [hparts]
    refine ⟨Tree.tabularPart_tableParts hrow hrows, fun alignments => ?_⟩
    rw [Tree.text_tableParts hrow hrows, Shown.ofText_append, htext, htexts]
    rfl

/-! ## Blocks -/

/-- The shown block of a code or HTML block. -/
theorem shown_literalBlock (kind : LiteralKind) (text : String) (cs : List Tree) :
    (Tree.node (.block (Assembly.literalBlock kind text)) cs).clean = true ∧
      (Tree.node (.block (Assembly.literalBlock kind text)) cs).shown =
        .ofLiteral (kind.layoutBlock text) := by
  cases kind with
  | indented => exact ⟨rfl, rfl⟩
  | fenced info => exact ⟨rfl, rfl⟩
  | html => exact ⟨rfl, rfl⟩

/-- The paragraph around a run of inline trees is clean and shows the text of the run. -/
theorem Piece.shownAll_wrap {run : List Tree} (h : Tree.allInline run = true) :
    Tree.cleanAll (Piece.wrap run) = true ∧
      Tree.shownAll (Piece.wrap run) = .ofText (Tree.texts run) := by
  cases run with
  | nil => exact ⟨rfl, rfl⟩
  | cons t run =>
    refine ⟨?_, Shown.append_none _⟩
    rw [wrap, Tree.cleanAll, Tree.clean, h]
    rfl

mutual

/-- **A block becomes one clean tree** that has everything to be shown that the events
contribute. -/
theorem pieces_of_isBlock : ∀ {t : EventTree}, t.isBlock = true →
    ∃ u, t.pieces = [.block u] ∧ u.clean = true ∧ u.shown = t.shown
  | leaf e _, h => by
    cases beq_iff_eq.mp h
    exact ⟨_, rfl, rfl, rfl⟩
  | element tag _ _ content, h => by
    cases tag with
    | paragraph =>
      obtain ⟨us, hus, hinline, htexts⟩ := block_of_allInline (.block (.paragraph false)) rfl h
      exact ⟨_, hus, hinline, htexts⟩
    | heading level =>
      obtain ⟨us, hus, hinline, htexts⟩ := block_of_allInline (.block (.heading level)) rfl h
      exact ⟨_, hus, hinline, htexts⟩
    -- blocks are a mix that happens to have no bare inline content
    | blockQuote =>
      obtain ⟨hclean, hshown⟩ := wrapRuns_of_allMixed (allMixed_of_allBlocks h) [] rfl
      exact ⟨_, rfl, hclean, hshown.trans (Shown.none_append _)⟩
    | footnoteDefinition label =>
      obtain ⟨hclean, hshown⟩ := wrapRuns_of_allMixed (allMixed_of_allBlocks h) [] rfl
      exact ⟨_, rfl, hclean, hshown.trans (Shown.none_append _)⟩
    | list start =>
      obtain ⟨us, hus, hclean, hshown⟩ := piecesAll_of_allItems h
      have hfill : ∀ kind : NodeKind, kind.acceptsInline = false →
          [Piece.block (.fill kind (piecesAll content))] = [.block (.node kind us)] := by
        intro kind hkind
        rw [hus, Tree.fill_block kind hkind]
      cases start with
      | none => exact ⟨.node (.block .unorderedList) us, hfill _ rfl, hclean, hshown⟩
      | some n => exact ⟨.node (.block (.orderedList n)) us, hfill _ rfl, hclean, hshown⟩
    | literal kind =>
      obtain ⟨hclean, hshown⟩ := shown_literalBlock kind (literalText content) []
      exact ⟨_, rfl, hclean, hshown⟩
    | table alignments =>
      obtain ⟨htabular, htext⟩ := tableParts_of_isTable h
      exact ⟨_, rfl, htabular, htext alignments⟩
    | _ => cases h

theorem piecesAll_of_allItems : ∀ {ts : List EventTree}, allItems ts = true →
    ∃ us : List Tree, piecesAll ts = us.map .block ∧ Tree.cleanItems us = true ∧
      Tree.shownItems us = shownAll ts
  | [], _ => ⟨[], rfl, rfl, rfl⟩
  | element .item _ _ content :: ts, h => by
    rw [EventTree.allItems, Bool.and_eq_true] at h
    obtain ⟨hclean, hshown⟩ := wrapRuns_of_allMixed h.1 [] rfl
    obtain ⟨us, hus, hcleans, hshowns⟩ := piecesAll_of_allItems h.2
    refine ⟨.node (.block .listItem) (Piece.wrapRuns [] (piecesAll content)) :: us, ?_, ?_, ?_⟩
    · rw [piecesAll, hus]
      rfl
    · rw [Tree.cleanItems, hclean, hcleans]
      rfl
    · rw [Tree.shownItems, hshown, hshowns]
      exact congrArg (· ++ shownAll ts) (Shown.none_append _)

/-- Blocks and bare inline content become clean blocks, the runs in paragraphs. -/
theorem wrapRuns_of_allMixed : ∀ {ts : List EventTree}, allMixed ts = true →
    ∀ run : List Tree, Tree.allInline run = true →
      Tree.cleanAll (Piece.wrapRuns run (piecesAll ts)) = true ∧
        Tree.shownAll (Piece.wrapRuns run (piecesAll ts)) =
          .ofText (Tree.texts run) ++ shownAll ts
  | [], _, run, hrun => by
    rw [piecesAll, Piece.wrapRuns, EventTree.shownAll, Shown.append_none]
    exact Piece.shownAll_wrap hrun
  | t :: ts, h, run, hrun => by
    rw [EventTree.allMixed, Bool.and_eq_true] at h
    rcases Bool.or_eq_true_iff.mp h.1 with ht | ht
    · -- the run goes on
      obtain ⟨u, hu, hinline, htext⟩ := pieces_of_isInline ht
      have hrun' : Tree.allInline (run ++ [u]) = true := by
        rw [Tree.allInline_append, hrun, Tree.allInline, hinline]
        rfl
      obtain ⟨hclean, hshown⟩ := wrapRuns_of_allMixed h.2 (run ++ [u]) hrun'
      rw [piecesAll, hu, List.singleton_append, Piece.wrapRuns]
      refine ⟨hclean, hshown.trans ?_⟩
      rw [Tree.texts_append, Shown.ofText_append, Shown.append_assoc, EventTree.shownAll, ← htext,
        Tree.texts, Tree.texts, String.append_empty]
    · -- the block ends the run
      obtain ⟨u, hu, hclean, hshown⟩ := pieces_of_isBlock ht
      obtain ⟨hcleans, hshowns⟩ := wrapRuns_of_allMixed h.2 [] rfl
      obtain ⟨hwrap, htexts⟩ := Piece.shownAll_wrap hrun
      rw [piecesAll, hu, List.singleton_append, Piece.wrapRuns]
      constructor
      · rw [Tree.cleanAll_append, hwrap, Tree.cleanAll, hclean, hcleans]
        rfl
      · have hnone : Shown.ofText (Tree.texts []) = .none := rfl
        rw [Tree.shownAll_append, htexts, Tree.shownAll, hshown, hshowns, hnone,
          Shown.none_append, EventTree.shownAll]

end

/-- **A forest of the grammar stands for a clean tree** that has everything to be shown that the
events contribute. -/
theorem clean_translate {forest : List EventTree} (h : allBlocks forest = true) :
    (translate forest).clean = true ∧ (translate forest).shown = shownAll forest := by
  obtain ⟨hclean, hshown⟩ := wrapRuns_of_allMixed (allMixed_of_allBlocks h) [] rfl
  exact ⟨hclean, hshown.trans (Shown.none_append _)⟩

end MarkdownTree
