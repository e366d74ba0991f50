import MarkdownTree.Proofs.Layout.Pieces

/-!
# Margins

Blocks behind a margin should read as the blocks without one, with the margin in front of every
line. This holds for everything that is split into lines before it is written, which includes
whatever stands in a list item. A text that is written as it is gets the margin in front of its
first line only: a hard break inside of a quote leads out of the quote.

* `flatMap_line_eq_withMargin_iff` — the margin is in front of every line if and only if no piece
  has a line feed.
* `margin_in_front_of_lines` — so for blocks it depends on their whole texts alone, and the lines
  of a quote have the quote's mark if these have no line feed.
-/

namespace MarkdownTree

namespace Preview

variable {margin : List Char} {pieces : List (List Char)}

theorem flatMap_line_eq_withMargin (h : ∀ piece ∈ pieces, '\n' ∉ piece) :
    pieces.flatMap (line margin) = Text.withMargin margin true (pieces.flatMap (line [])) := by
  induction pieces with
  | nil => rfl
  | cons piece pieces ih =>
    rw [List.forall_mem_cons] at h
    rw [flatMap_line_cons, flatMap_line_cons, List.nil_append, Text.withMargin_line h.1, ih h.2]

/-- Every line feed in a piece makes room for another margin. -/
theorem length_withMargin_flatMap_line (margin : List Char) (pieces : List (List Char)) :
    (Text.withMargin margin true (pieces.flatMap (line []))).length =
      (pieces.flatMap (line margin)).length + margin.length * pieces.flatten.count '\n' := by
  induction pieces with
  | nil => rfl
  | cons piece pieces ih =>
    rw [flatMap_line_cons, flatMap_line_cons, List.nil_append, Text.length_withMargin, ih,
      List.flatten_cons, List.count_append]
    simp only [List.length_append, List.length_cons, Nat.mul_add, Bool.toNat_true, Nat.mul_one]
    omega

/-- **A margin is in front of every line if and only if no piece has a line feed.** -/
theorem flatMap_line_eq_withMargin_iff (margin : List Char) (pieces : List (List Char)) :
    pieces.flatMap (line margin) = Text.withMargin margin true (pieces.flatMap (line [])) ↔
      margin = [] ∨ ∀ piece ∈ pieces, '\n' ∉ piece := by
  constructor
  · intro heq
    have hlength := length_withMargin_flatMap_line margin pieces
    rw [← heq] at hlength
    have hproduct : margin.length * pieces.flatten.count '\n' = 0 := by omega
    rcases Nat.mul_eq_zero.mp hproduct with hmargin | hcount
    · exact .inl (List.length_eq_zero_iff.mp hmargin)
    · right
      intro piece hpiece hmem
      exact List.count_eq_zero.mp hcount (List.mem_flatten.mpr ⟨piece, hpiece, hmem⟩)
  · rintro (rfl | h)
    · rw [Text.withMargin_nil]
    · exact flatMap_line_eq_withMargin h

/-- A line behind a margin starts with the margin, unless this ends with a carriage return. -/
theorem prefix_of_mem_lines {mark : Char} (hmark : mark ≠ '\r')
    (hmargin : '\n' ∉ margin ++ [mark]) (h : ∀ piece ∈ pieces, '\n' ∉ piece) {l : List Char}
    (hl : l ∈ Text.lines (pieces.flatMap (line (margin ++ [mark])))) :
    margin ++ [mark] <+: l := by
  induction pieces with
  | nil => cases hl
  | cons piece pieces ih =>
    rw [List.forall_mem_cons] at h
    have hpiece : '\n' ∉ margin ++ [mark] ++ piece := by
      rw [List.mem_append]
      rintro (hm | hm)
      · exact hmargin hm
      · exact h.1 hm
    rw [flatMap_line_cons, Text.lines_line hpiece] at hl
    rcases List.mem_cons.mp hl with rfl | hl
    · exact Text.prefix_chop_reverse hmark margin piece
    · exact ih h.2 hl

/-- **A margin is in front of every line of some blocks if and only if there is no margin or none
of their whole texts has a line feed.** In the second case every line of a quote starts with the
quote's mark. -/
theorem margin_in_front_of_lines (margin : List Char) (blocks : List LayoutBlock) :
    (blocksText margin blocks = Text.withMargin margin true (blocksText [] blocks) ↔
      margin = [] ∨ ∀ s ∈ LayoutBlock.wholeTextsAll blocks, '\n' ∉ s.toList) ∧
    ((∀ s ∈ LayoutBlock.wholeTextsAll blocks, '\n' ∉ s.toList) → '\n' ∉ margin →
      ∀ l ∈ Text.lines (blockText margin (.quote blocks)), margin ++ ['>', ' '] <+: l) := by
  constructor
  · rw [blocksText_eq_flatMap, blocksText_eq_flatMap, flatMap_line_eq_withMargin_iff,
      newline_notMem_blocksPieces]
  · intro htexts hmargin l hl
    have hsplit : margin ++ ['>', ' '] = (margin ++ ['>']) ++ [' '] := by simp
    rw [blockText, blocksText_eq_flatMap, hsplit] at hl
    rw [hsplit]
    refine prefix_of_mem_lines (by decide) ?_ ((newline_notMem_blocksPieces blocks).mpr htexts) hl
    simpa using hmargin

/-- A list in nested quotes keeps both marks, also behind a hard break in one of its items. -/
theorem margin_in_front_of_list_lines :
    let broken : LayoutBlock := .text [⟨"a\nb", {}, none⟩] false
    let blocks : List LayoutBlock := [.list .unordered 0 [[broken]], .run "c\nd"]
    let margin := ['>', ' ']
    blocksText margin blocks = Text.withMargin margin true (blocksText [] blocks) ∧
      ∀ l ∈ Text.lines (blockText margin (.quote blocks)), margin ++ ['>', ' '] <+: l := by
  intro broken blocks margin
  obtain ⟨hmargin, hquote⟩ := margin_in_front_of_lines margin blocks
  have htexts : ∀ s ∈ LayoutBlock.wholeTextsAll blocks, '\n' ∉ s.toList := by decide
  exact ⟨hmargin.mpr (.inr htexts), hquote htexts (by decide)⟩

/-- A hard break directly in a quote ends it: the line behind the break has no mark. -/
theorem margin_missing_behind_break :
    let broken : LayoutBlock := .text [⟨"a\nb", {}, none⟩] false
    blocksText ['>', ' '] [broken] ≠ Text.withMargin ['>', ' '] true (blocksText [] [broken]) ∧
      Text.lines (blockText [] (.quote [broken])) = [['>', ' ', 'a'], ['b']] := by
  decide

end Preview

end MarkdownTree
