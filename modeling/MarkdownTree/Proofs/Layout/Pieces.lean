import MarkdownTree.Layout.Preview
import MarkdownTree.Proofs.Text.Lines

/-!
# The pieces of a preview

A preview is put together from pieces of text, each behind the margin and with a line feed behind
it. Which pieces a block has does not depend on the margin. Most pieces are lines already, but a
heading, a text, a table row and the language of a code block are one piece as they are, so that a
line feed in them comes out without a margin.

* `itemLines`, `itemsText_eq` — a list item as lines, and a list as its items.
* `blockText_eq_flatMap` — a block is its pieces, each behind the margin.
* `newline_notMem_blockPieces` — the pieces have no line feed if and only if the block's whole
  texts have none.
* `notMem_blockPieces` — what is no mark and no line feed comes from a text of the block.
-/

namespace MarkdownTree

/-! ## The texts of a block -/

/-- The texts of a span: its own and the destination of its link. -/
def Span.texts (span : Span) : List String :=
  span.text :: span.link.toList

/-- The texts of the cells of a table. -/
def Table.texts (t : Table) : List String :=
  (t.header ++ t.rows).flatMap fun cells => cells.flatMap fun cell => cell.flatMap Span.texts

/-- The texts that a block shows in a heading. -/
def LayoutBlock.headingTexts : LayoutBlock → List String
  | .text spans _ => spans.flatMap Span.texts
  | .run literal => [literal]
  | _ => []

mutual

/-- All the texts in a block. -/
def LayoutBlock.texts : LayoutBlock → List String
  | .quote content => LayoutBlock.textsAll content
  | .heading _ content => content.flatMap LayoutBlock.headingTexts
  | .code language literal => language.toList ++ [literal]
  | .list _ _ items => LayoutBlock.textsItems items
  | .text spans _ => spans.flatMap Span.texts
  | .run literal => [literal]
  | .html literal => [literal]
  | .table t => t.texts
  | .rule | .empty => []

/-- All the texts in some blocks. -/
def LayoutBlock.textsAll : List LayoutBlock → List String
  | [] => []
  | b :: bs => b.texts ++ LayoutBlock.textsAll bs

/-- All the texts in the items of a list. -/
def LayoutBlock.textsItems : List (List LayoutBlock) → List String
  | [] => []
  | item :: items => LayoutBlock.textsAll item ++ LayoutBlock.textsItems items

end

mutual

/-- The texts of a block that are written as they are. The others are split into lines, and so is
everything in a list item. -/
def LayoutBlock.wholeTexts : LayoutBlock → List String
  | .quote content => LayoutBlock.wholeTextsAll content
  | .heading _ content => content.flatMap LayoutBlock.headingTexts
  | .code language _ => language.toList
  | .text spans _ => spans.flatMap Span.texts
  | .table t => t.texts
  | .list _ _ _ | .run _ | .html _ | .rule | .empty => []

/-- The texts of some blocks that are written as they are. -/
def LayoutBlock.wholeTextsAll : List LayoutBlock → List String
  | [] => []
  | b :: bs => b.wholeTexts ++ LayoutBlock.wholeTextsAll bs

end

namespace Preview

/-! ## List items -/

/-- The lines of a list item whose body has the given lines. -/
def itemLines (marker : List Char) : List (List Char) → List (List Char)
  | [] => [marker]
  | first :: rest =>
    (marker ++ first) :: rest.map (List.replicate marker.length ' ' ++ ·)

theorem itemText_eq (margin marker body : List Char) :
    itemText margin marker body =
      (itemLines marker (Text.lines body)).flatMap (line margin) := by
  unfold itemText
  cases Text.lines body with
  | nil => simp [itemLines]
  | cons first rest => simp [itemLines, List.flatMap_map]

/-- The lines of the item with the given blocks at the given index. -/
def itemPieces (kind : ListKind) (startIndex : Int) (item : List LayoutBlock × Nat) :
    List (List Char) :=
  itemLines (marker kind startIndex item.2) (Text.lines (Text.trimEnd (blocksText [] item.1)))

/-- A list is its items, counted from `index`. -/
theorem itemsText_eq (margin : List Char) (kind : ListKind) (startIndex : Int) (index : Nat)
    (items : List (List LayoutBlock)) :
    itemsText margin kind startIndex index items =
      ((items.zipIdx index).flatMap (itemPieces kind startIndex)).flatMap (line margin) := by
  induction items generalizing index with
  | nil => rfl
  | cons item items ih =>
    rw [itemsText, ih, itemText_eq, List.zipIdx_cons, List.flatMap_cons, List.flatMap_append]
    rfl

/-! ## Pieces -/

/-- The pieces of a table: a row each. -/
def tablePieces (t : Table) : List (List Char) :=
  t.header.map (fun cells => row (cells.map styled)) ++
    (if t.header.isEmpty then [] else [row (List.replicate t.columnCount ['-', '-', '-'])]) ++
    t.rows.map fun cells => row (cells.map styled)

mutual

/-- The pieces of text that a block writes behind the margin. -/
def blockPieces : LayoutBlock → List (List Char)
  | .quote content => (blocksPieces content).map (['>', ' '] ++ ·)
  | .rule => [['-', '-', '-']]
  | .heading level content =>
    [List.replicate (max 1 (min level 6)) '#' ++ ' ' :: content.flatMap headingText]
  | .code language text =>
    (['`', '`', '`'] ++ (language.getD "").toList) :: Text.lines text.toList ++ [['`', '`', '`']]
  | .list kind startIndex items => items.zipIdx.flatMap (itemPieces kind startIndex)
  | .text spans _ => [styled spans]
  | .run text => Text.lines (Text.trimEnd text.toList)
  | .html literal => Text.lines (Text.trimEnd literal.toList)
  | .empty => [[]]
  | .table t => tablePieces t

/-- The pieces of text that blocks write behind the margin. -/
def blocksPieces : List LayoutBlock → List (List Char)
  | [] => []
  | b :: bs => blockPieces b ++ blocksPieces bs

end

theorem flatMap_line_cons (margin piece : List Char) (pieces : List (List Char)) :
    (piece :: pieces).flatMap (line margin) =
      margin ++ piece ++ '\n' :: pieces.flatMap (line margin) := by
  simp [line]

/-- A margin that grows by a mark: the mark can as well stand in front of the pieces. -/
theorem flatMap_line_map (margin mark : List Char) (pieces : List (List Char)) :
    (pieces.map (mark ++ ·)).flatMap (line margin) = pieces.flatMap (line (margin ++ mark)) := by
  rw [List.flatMap_map]
  congr 1
  funext piece
  simp [line]

theorem tableText_eq (margin : List Char) (t : Table) :
    tableText margin t = (tablePieces t).flatMap (line margin) := by
  unfold tableText tablePieces
  split <;> simp [List.flatMap_map]

mutual

/-- **A block is its pieces, each behind the margin.** -/
theorem blockText_eq_flatMap (margin : List Char) :
    ∀ b : LayoutBlock, blockText margin b = (blockPieces b).flatMap (line margin)
  | .quote content => by
    rw [blockText, blocksText_eq_flatMap, blockPieces, flatMap_line_map]
  | .list kind startIndex items => by rw [blockText, itemsText_eq, blockPieces]
  | .code language text => by simp [blockText, blockPieces, linesText]
  | .table t => by rw [blockText, tableText_eq, blockPieces]
  | .run text => by rw [blockText, linesText, blockPieces]
  | .html literal => by rw [blockText, linesText, blockPieces]
  | .rule => by simp [blockText, blockPieces]
  | .heading level content => by simp [blockText, blockPieces]
  | .text spans fadeOut => by simp [blockText, blockPieces]
  | .empty => by simp [blockText, blockPieces]

theorem blocksText_eq_flatMap (margin : List Char) :
    ∀ bs : List LayoutBlock, blocksText margin bs = (blocksPieces bs).flatMap (line margin)
  | [] => rfl
  | b :: bs => by
    rw [blocksText, blockText_eq_flatMap, blocksText_eq_flatMap, blocksPieces,
      List.flatMap_append]

end

/-! ## The characters of a piece -/

/-- Whether a preview may put a character of its own between the texts. -/
def isMark (c : Char) : Bool :=
  c.isDigit ||
    c ∈ [' ', '#', '(', ')', '*', '-', '.', '>', '[', ']', '`', '|', '~']

variable {c : Char}

theorem ne_of_isMark {m : Char} (hc : isMark c = false) (hm : isMark m = true) : c ≠ m := by
  rintro rfl
  rw [hm] at hc
  cases hc

theorem notMem_styleMarks (hc : isMark c = false) (style : Style) : c ∉ styleMarks style := by
  have hcode := ne_of_isMark hc (m := '`') rfl
  have hstar := ne_of_isMark hc (m := '*') rfl
  have htilde := ne_of_isMark hc (m := '~') rfl
  simp [styleMarks, hcode, hstar, htilde]

theorem notMem_marker (hc : isMark c = false) (kind : ListKind) (startIndex : Int)
    (index : Nat) : c ∉ marker kind startIndex index := by
  have hdash := ne_of_isMark hc (m := '-') rfl
  have hdot := ne_of_isMark hc (m := '.') rfl
  have hspace := ne_of_isMark hc (m := ' ') rfl
  cases kind with
  | unordered => simp [marker, hdash, hspace]
  | ordered =>
    intro h
    rcases List.mem_append.mp h with h | h
    · rcases Text.mem_toString h with he | hdigit
      · exact hdash he
      · rw [isMark, hdigit, Bool.true_or] at hc
        cases hc
    · simp [hdot, hspace] at h

theorem notMem_spanText (hc : isMark c = false) {span : Span} :
    c ∉ spanText span ↔ ∀ s ∈ span.texts, c ∉ s.toList := by
  have hstyle := notMem_styleMarks hc span.style
  have hopen := ne_of_isMark hc (m := '[') rfl
  have hclose := ne_of_isMark hc (m := ']') rfl
  have hleft := ne_of_isMark hc (m := '(') rfl
  have hright := ne_of_isMark hc (m := ')') rfl
  unfold spanText Span.texts
  cases span.link with
  | none => simp [hstyle]
  | some link => simp [hstyle, hopen, hclose, hleft, hright]

theorem notMem_styled (hc : isMark c = false) {spans : List Span} :
    c ∉ styled spans ↔ ∀ s ∈ spans.flatMap Span.texts, c ∉ s.toList := by
  rw [List.forall_mem_flatMap]
  simp [styled, ← notMem_spanText hc]

theorem notMem_headingText (hc : isMark c = false) {b : LayoutBlock} :
    c ∉ headingText b ↔ ∀ s ∈ b.headingTexts, c ∉ s.toList := by
  cases b with
  | text spans fadeOut => exact notMem_styled hc
  | _ => simp [headingText, LayoutBlock.headingTexts]

/-- What stands in a row stands in one of its cells, marks apart. -/
theorem notMem_row (hc : isMark c = false) {cells : List (List Char)} :
    c ∉ row cells ↔ ∀ cell ∈ cells, c ∉ cell := by
  have hbar := ne_of_isMark hc (m := '|') rfl
  have hspace := ne_of_isMark hc (m := ' ') rfl
  have hcells : c ∉ (cells.intersperse [' ', '|', ' ']).flatten ↔ ∀ cell ∈ cells, c ∉ cell := by
    induction cells using List.intersperse.induct with
    | case1 => simp
    | case2 cell => simp
    | case3 cell cells hcells ih =>
      rw [List.intersperse.eq_3 _ _ _ hcells, List.forall_mem_cons, ← ih]
      simp [hbar, hspace]
  rw [← hcells]
  simp [row, hbar, hspace]

theorem notMem_tablePieces (hc : isMark c = false) {t : Table} :
    (∀ piece ∈ tablePieces t, c ∉ piece) ↔ ∀ s ∈ t.texts, c ∉ s.toList := by
  have hrow : ∀ cells : List Cell, c ∉ row (cells.map styled) ↔
      ∀ s ∈ cells.flatMap fun cell => cell.flatMap Span.texts, c ∉ s.toList := by
    intro cells
    rw [notMem_row hc, List.forall_mem_map, List.forall_mem_flatMap]
    exact forall₂_congr fun cell _ => notMem_styled hc
  have hrule : ∀ piece ∈ if t.header.isEmpty then [] else
      [row (List.replicate t.columnCount ['-', '-', '-'])], c ∉ piece := by
    intro piece hpiece
    rw [List.mem_ite_nil_left, List.mem_singleton] at hpiece
    rw [hpiece.2, notMem_row hc]
    intro cell hcell
    rw [List.eq_of_mem_replicate hcell]
    simp [ne_of_isMark hc (m := '-') rfl]
  simp only [tablePieces, Table.texts, List.forall_mem_append, List.forall_mem_map,
    List.forall_mem_flatMap, hrow]
  rw [and_iff_left hrule]

theorem notMem_itemLines (hc : isMark c = false) {marker : List Char} (hmarker : c ∉ marker)
    {ls : List (List Char)} (h : ∀ l ∈ ls, c ∉ l) : ∀ piece ∈ itemLines marker ls, c ∉ piece := by
  have hspace := ne_of_isMark hc (m := ' ') rfl
  cases ls with
  | nil => simpa [itemLines] using hmarker
  | cons first rest =>
    rw [List.forall_mem_cons] at h
    simpa [itemLines, hmarker, h.1, hspace] using h.2

/-- The pieces of an item have no line feed, whatever its blocks contain. -/
theorem newline_notMem_itemPieces (kind : ListKind) (startIndex : Int)
    (item : List LayoutBlock × Nat) : ∀ piece ∈ itemPieces kind startIndex item, '\n' ∉ piece :=
  notMem_itemLines rfl (notMem_marker rfl kind startIndex item.2) fun _ =>
    Text.newline_notMem_of_mem_lines

mutual

/-- **The pieces of a block have no line feed if and only if its whole texts have none.** -/
theorem newline_notMem_blockPieces : ∀ b : LayoutBlock,
    (∀ piece ∈ blockPieces b, '\n' ∉ piece) ↔ ∀ s ∈ b.wholeTexts, '\n' ∉ s.toList
  | .quote content => by
    rw [blockPieces, LayoutBlock.wholeTexts, ← newline_notMem_blocksPieces content,
      List.forall_mem_map]
    simp
  | .heading level content => by
    rw [blockPieces, LayoutBlock.wholeTexts, List.forall_mem_flatMap]
    simp [← notMem_headingText (c := '\n') rfl]
  | .code language text => by
    have hlines : ∀ piece ∈ Text.lines text.toList ++ [['`', '`', '`']], '\n' ∉ piece := by
      rw [List.forall_mem_append]
      exact ⟨fun _ => Text.newline_notMem_of_mem_lines, by decide⟩
    rw [blockPieces, List.cons_append, List.forall_mem_cons, and_iff_left hlines]
    cases language <;> simp [LayoutBlock.wholeTexts]
  | .list kind startIndex items => by
    have hitems : ∀ item ∈ items.zipIdx, ∀ piece ∈ itemPieces kind startIndex item,
        '\n' ∉ piece := fun item _ => newline_notMem_itemPieces kind startIndex item
    rw [blockPieces, List.forall_mem_flatMap, LayoutBlock.wholeTexts]
    exact iff_of_true hitems (List.forall_mem_nil _)
  | .text spans fadeOut => by
    rw [blockPieces, LayoutBlock.wholeTexts, ← notMem_styled (c := '\n') rfl]
    simp
  | .table t => by
    rw [blockPieces, LayoutBlock.wholeTexts, notMem_tablePieces rfl]
  | .run text => by
    rw [blockPieces, LayoutBlock.wholeTexts]
    exact iff_of_true (fun _ => Text.newline_notMem_of_mem_lines) (List.forall_mem_nil _)
  | .html literal => by
    rw [blockPieces, LayoutBlock.wholeTexts]
    exact iff_of_true (fun _ => Text.newline_notMem_of_mem_lines) (List.forall_mem_nil _)
  | .rule => by simp [blockPieces, LayoutBlock.wholeTexts]
  | .empty => by simp [blockPieces, LayoutBlock.wholeTexts]

theorem newline_notMem_blocksPieces : ∀ bs : List LayoutBlock,
    (∀ piece ∈ blocksPieces bs, '\n' ∉ piece) ↔
      ∀ s ∈ LayoutBlock.wholeTextsAll bs, '\n' ∉ s.toList
  | [] => by simp [blocksPieces, LayoutBlock.wholeTextsAll]
  | b :: bs => by
    rw [blocksPieces, LayoutBlock.wholeTextsAll, List.forall_mem_append, List.forall_mem_append,
      newline_notMem_blockPieces b, newline_notMem_blocksPieces bs]

end

theorem notMem_flatMap_line (hline : c ≠ '\n') {margin : List Char} (hmargin : c ∉ margin)
    {pieces : List (List Char)} (h : ∀ piece ∈ pieces, c ∉ piece) :
    c ∉ pieces.flatMap (line margin) := by
  intro hmem
  obtain ⟨piece, hpiece, hmem⟩ := List.mem_flatMap.mp hmem
  simp [line, hmargin, h piece hpiece, hline] at hmem

mutual

/-- **What is no mark and no line feed comes from a text of the block.** -/
theorem notMem_blockPieces (hc : isMark c = false) (hline : c ≠ '\n') : ∀ b : LayoutBlock,
    (∀ s ∈ b.texts, c ∉ s.toList) → ∀ piece ∈ blockPieces b, c ∉ piece
  | .quote content, h => by
    have hgt := ne_of_isMark hc (m := '>') rfl
    have hspace := ne_of_isMark hc (m := ' ') rfl
    have hcontent := notMem_blocksPieces hc hline content h
    rw [blockPieces, List.forall_mem_map]
    intro piece hpiece
    simp [hgt, hspace, hcontent piece hpiece]
  | .heading level content, h => by
    have hhash := ne_of_isMark hc (m := '#') rfl
    have hspace := ne_of_isMark hc (m := ' ') rfl
    rw [LayoutBlock.texts, List.forall_mem_flatMap] at h
    simpa [blockPieces, hhash, hspace, notMem_headingText hc] using h
  | .code language text, h => by
    have htick := ne_of_isMark hc (m := '`') rfl
    rw [LayoutBlock.texts, List.forall_mem_append] at h
    have hlanguage : c ∉ (language.getD "").toList := by
      cases language with
      | none => simp
      | some language => exact h.1 language (by simp)
    have hlines := Text.notMem_lines (h.2 text (by simp))
    intro piece hpiece
    rw [blockPieces, List.cons_append, List.mem_cons, List.mem_append, List.mem_singleton] at hpiece
    rcases hpiece with rfl | hpiece | rfl
    · simp [htick, hlanguage]
    · exact hlines piece hpiece
    · simp [htick]
  | .list kind startIndex items, h => by
    rw [blockPieces, List.forall_mem_flatMap]
    exact notMem_itemPieces hc hline kind startIndex items 0 h
  | .text spans fadeOut, h => by
    rw [LayoutBlock.texts, ← notMem_styled hc] at h
    simpa [blockPieces] using h
  | .table t, h => by
    rw [LayoutBlock.texts] at h
    exact (notMem_tablePieces hc).mpr h
  | .run text, h => Text.notMem_lines_trimEnd (h text (by simp [LayoutBlock.texts]))
  | .html literal, h => Text.notMem_lines_trimEnd (h literal (by simp [LayoutBlock.texts]))
  | .rule, _ => by simp [blockPieces, ne_of_isMark hc (m := '-') rfl]
  | .empty, _ => by simp [blockPieces]

theorem notMem_blocksPieces (hc : isMark c = false) (hline : c ≠ '\n') :
    ∀ bs : List LayoutBlock, (∀ s ∈ LayoutBlock.textsAll bs, c ∉ s.toList) →
      ∀ piece ∈ blocksPieces bs, c ∉ piece
  | [], _ => by simp [blocksPieces]
  | b :: bs, h => by
    rw [LayoutBlock.textsAll, List.forall_mem_append] at h
    rw [blocksPieces, List.forall_mem_append]
    exact ⟨notMem_blockPieces hc hline b h.1, notMem_blocksPieces hc hline bs h.2⟩

theorem notMem_itemPieces (hc : isMark c = false) (hline : c ≠ '\n') (kind : ListKind)
    (startIndex : Int) : ∀ (items : List (List LayoutBlock)) (index : Nat),
      (∀ s ∈ LayoutBlock.textsItems items, c ∉ s.toList) →
        ∀ item ∈ items.zipIdx index, ∀ piece ∈ itemPieces kind startIndex item, c ∉ piece
  | [], _, _ => by simp
  | item :: items, index, h => by
    rw [LayoutBlock.textsItems, List.forall_mem_append] at h
    rw [List.zipIdx_cons, List.forall_mem_cons]
    have hitem : c ∉ blocksText [] item := by
      rw [blocksText_eq_flatMap]
      exact notMem_flatMap_line hline List.not_mem_nil (notMem_blocksPieces hc hline item h.1)
    exact ⟨notMem_itemLines hc (notMem_marker hc kind startIndex index)
        (Text.notMem_lines_trimEnd hitem),
      notMem_itemPieces hc hline kind startIndex items (index + 1) h.2⟩

end

end Preview

end MarkdownTree
