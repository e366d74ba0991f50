import MarkdownTree.Proofs.Assembly.Forest

/-!
# The block grammar of events

A markdown parser does not emit every forest. Paragraphs and headings contain inline content, quotes
and footnotes contain blocks, lists contain items, items contain blocks and bare inline content, and
a table has a head and rows with cells.

* `EventTree.isInline`, `EventTree.isBlock`, `EventTree.isTable` — the grammar.
* `wellNestedAll_of_allBlocks` — forests of the grammar are well-nested.
-/

namespace MarkdownTree

namespace EventTree

mutual

/-- Whether a tree is inline content: a leaf, or an inline tag with inline content. -/
def isInline : EventTree → Bool
  | leaf e _ => e.inline?.isSome
  | element tag _ _ content =>
    match tag.role with
    | .inline _ => allInline content
    | _ => false

def allInline : List EventTree → Bool
  | [] => true
  | t :: ts => t.isInline && allInline ts

end

/-- Whether a tree is a cell with inline content. -/
def isCell : EventTree → Bool
  | element .tableCell _ _ content => allInline content
  | _ => false

/-- Whether a tree is a row of cells. -/
def isRow : EventTree → Bool
  | element .tableRow _ _ cells => cells.all isCell
  | _ => false

/-- Whether a forest is the content of a table: a head, and rows. -/
def isTable : List EventTree → Bool
  | element .tableHead _ _ cells :: rows => cells.all isCell && rows.all isRow
  | _ => false

mutual

/-- Whether a tree is a block. -/
def isBlock : EventTree → Bool
  | leaf e _ => e == .rule
  | element tag _ _ content =>
    match tag with
    | .paragraph | .heading _ => allInline content
    | .blockQuote | .footnoteDefinition _ => allBlocks content
    | .list _ => allItems content
    | .literal _ => content.all fun t => t.literal?.isSome
    | .table _ => isTable content
    | _ => false

def allBlocks : List EventTree → Bool
  | [] => true
  | t :: ts => t.isBlock && allBlocks ts

/-- Whether a forest consists of items with blocks and bare inline content. -/
def allItems : List EventTree → Bool
  | [] => true
  | element .item _ _ content :: ts => allMixed content && allItems ts
  | _ :: _ => false

def allMixed : List EventTree → Bool
  | [] => true
  | t :: ts => (t.isInline || t.isBlock) && allMixed ts

end

theorem allMixed_of_allBlocks : ∀ {ts : List EventTree}, allBlocks ts = true → allMixed ts = true
  | [], _ => rfl
  | t :: ts, h => by
    rw [allBlocks, Bool.and_eq_true] at h
    rw [allMixed, h.1, allMixed_of_allBlocks h.2, Bool.or_true, Bool.and_true]

/-! ## Forests of the grammar are well-nested -/

theorem isLeaf_of_inline? {e : Event} (h : e.inline?.isSome = true) : e.isLeaf = true := by
  cases e with
  | start tag => cases h
  | stop => cases h
  | _ => rfl

mutual

theorem wellNested_of_isInline : ∀ {t : EventTree}, t.isInline = true → t.wellNested = true
  | leaf e _, h => isLeaf_of_inline? h
  | element tag _ _ content, h => by
    rw [isInline] at h
    rw [wellNested]
    split at h
    · next i hr =>
      simp only [hr]
      exact wellNestedAll_of_allInline h
    · cases h

theorem wellNestedAll_of_allInline : ∀ {ts : List EventTree}, allInline ts = true →
    wellNestedAll ts = true
  | [], _ => rfl
  | t :: ts, h => by
    rw [allInline, Bool.and_eq_true] at h
    rw [wellNestedAll, wellNested_of_isInline h.1, wellNestedAll_of_allInline h.2, Bool.and_true]

end

theorem cellsNested_of_isCell : ∀ {cells : List EventTree}, cells.all isCell = true →
    cellsNested cells = true
  | [], _ => rfl
  | t :: cells, h => by
    rw [List.all_cons, Bool.and_eq_true] at h
    obtain ⟨ht, hcells⟩ := h
    unfold isCell at ht
    split at ht
    · rw [cellsNested, wellNestedAll_of_allInline ht, cellsNested_of_isCell hcells, Bool.and_true]
    · cases ht

theorem rowsNested_of_isRow : ∀ {rows : List EventTree}, rows.all isRow = true →
    rowsNested rows = true
  | [], _ => rfl
  | t :: rows, h => by
    rw [List.all_cons, Bool.and_eq_true] at h
    obtain ⟨ht, hrows⟩ := h
    unfold isRow at ht
    split at ht
    · rw [rowsNested, cellsNested_of_isCell ht, rowsNested_of_isRow hrows, Bool.and_true]
    · cases ht

theorem tableNested_of_isTable {content : List EventTree} (h : isTable content = true) :
    tableNested content = true := by
  unfold isTable at h
  split at h
  · rw [Bool.and_eq_true] at h
    rw [tableNested, cellsNested_of_isCell h.1, rowsNested_of_isRow h.2, Bool.and_true]
  · cases h

mutual

theorem wellNested_of_isBlock : ∀ {t : EventTree}, t.isBlock = true → t.wellNested = true
  | leaf e _, h => by
    cases beq_iff_eq.mp h
    rfl
  | element tag _ _ content, h => by
    cases tag with
    | paragraph => exact wellNestedAll_of_allInline h
    | heading level => exact wellNestedAll_of_allInline h
    | blockQuote => exact wellNestedAll_of_allMixed (allMixed_of_allBlocks h)
    | footnoteDefinition label => exact wellNestedAll_of_allMixed (allMixed_of_allBlocks h)
    | list start =>
      cases start with
      | none => exact wellNestedAll_of_allItems h
      | some n => exact wellNestedAll_of_allItems h
    | literal kind => exact h
    | table alignments => exact tableNested_of_isTable h
    | _ => cases h

theorem wellNestedAll_of_allItems : ∀ {ts : List EventTree}, allItems ts = true →
    wellNestedAll ts = true
  | [], _ => rfl
  | element .item _ _ content :: ts, h => by
    rw [allItems, Bool.and_eq_true] at h
    rw [wellNestedAll, wellNestedAll_of_allItems h.2, Bool.and_true]
    exact wellNestedAll_of_allMixed h.1

theorem wellNestedAll_of_allMixed : ∀ {ts : List EventTree}, allMixed ts = true →
    wellNestedAll ts = true
  | [], _ => rfl
  | t :: ts, h => by
    rw [allMixed, Bool.and_eq_true] at h
    have ht : t.wellNested = true := by
      rcases Bool.or_eq_true_iff.mp h.1 with ht | ht
      · exact wellNested_of_isInline ht
      · exact wellNested_of_isBlock ht
    rw [wellNestedAll, ht, wellNestedAll_of_allMixed h.2, Bool.and_true]

end

theorem wellNestedAll_of_allBlocks {forest : List EventTree} (h : allBlocks forest = true) :
    wellNestedAll forest = true :=
  wellNestedAll_of_allMixed (allMixed_of_allBlocks h)

end EventTree

end MarkdownTree
