import MarkdownTree.Proofs.Layout.Denotation
import MarkdownTree.Proofs.Layout.Pieces
import MarkdownTree.Proofs.Tree.Subtrees

/-!
# Numbers and indents of list items

An ordered list counts from its start. The number goes from the start to a start index, which is
one less and has 64 bits with a sign, and from there back to the number of each item. Items whose
markers have different widths are indented differently.

* `startIndex?`, `itemNumber?` — both ways in 64-bit arithmetic, which may overflow.
* `bind_itemNumber?` — it does not, and the numbers are those of unbounded counting, up to the
  largest.
* `render_orderedList` — the list block that the default rules make of an ordered list.
* `list_items_numbered_and_aligned` — its preview, and how to get an item back from its lines.
-/

namespace MarkdownTree

/-! ## Arithmetic of 64 bits -/

/-- A number that has to fit into 64 bits with a sign. -/
def word? (n : Int) : Option Int :=
  if -0x8000000000000000 ≤ n ∧ n ≤ 0x7FFFFFFFFFFFFFFF then some n else none

/-- The sum of two words. It stops at the bounds of 64 bits. -/
def saturatingAdd (m n : Int) : Int :=
  max (-0x8000000000000000) (min (m + n) 0x7FFFFFFFFFFFFFFF)

/-- The start index of an ordered list, unless a step overflows. A start that is no word is
replaced by the largest word. -/
def startIndex? (start : Nat) : Option Int :=
  match word? start with
  | some n => word? (n - 1)
  | none => word? (0x7FFFFFFFFFFFFFFF - 1)

/-- The number of the item at `index`, unless a step overflows. -/
def itemNumber? (startIndex : Int) (index : Nat) : Option Int :=
  match word? index with
  | some n => (word? (n + 1)).map (saturatingAdd startIndex)
  | none => some 0x7FFFFFFFFFFFFFFF

theorem word?_eq_some {n : Int} (h : -0x8000000000000000 ≤ n ∧ n ≤ 0x7FFFFFFFFFFFFFFF) :
    word? n = some n :=
  if_pos h

/-- The start index does not overflow. -/
theorem startIndex?_eq (start : Nat) : startIndex? start = some (Pass.startIndex start) := by
  unfold startIndex? Pass.startIndex
  by_cases h : start < 0x8000000000000000
  · rw [if_pos h, word?_eq_some (by omega)]
    exact word?_eq_some (by omega)
  · have hnone : word? start = none := if_neg (by omega)
    rw [if_neg h, hnone]
    exact word?_eq_some (by decide)

theorem saturatingAdd_startIndex (start index : Nat) :
    saturatingAdd (Pass.startIndex start) (index + 1) =
      min ((start : Int) + index) 0x7FFFFFFFFFFFFFFF := by
  unfold saturatingAdd Pass.startIndex
  split <;> omega

/-- **Counting does not overflow**, and the largest number stays. There is no item at the largest
index, since a list has at most as many items as a word can count. -/
theorem bind_itemNumber? {index : Nat} (hindex : index < 0x7FFFFFFFFFFFFFFF) (start : Nat) :
    (startIndex? start).bind (itemNumber? · index) =
      some (min ((start : Int) + index) 0x7FFFFFFFFFFFFFFF) := by
  have hword : word? index = some (index : Int) := word?_eq_some (by omega)
  have hnext : word? (index + 1) = some (index + 1 : Int) := word?_eq_some (by omega)
  have hnumber : itemNumber? (Pass.startIndex start) index =
      some (saturatingAdd (Pass.startIndex start) (index + 1)) := by
    simp only [itemNumber?, hword, hnext, Option.map_some]
  rw [startIndex?_eq, Option.bind_some, hnumber, saturatingAdd_startIndex]

namespace Preview

/-! ## Markers -/

/-- The marker of a numbered item. -/
def numberMark (n : Nat) : List Char :=
  (toString n).toList ++ ['.', ' ']

/-- **The items of an ordered list are counted from its start**, up to the largest number. -/
theorem marker_startIndex (start index : Nat) :
    marker .ordered (Pass.startIndex start) index =
      numberMark (min (start + index) 0x7FFFFFFFFFFFFFFF) := by
  have hnumber : min (Pass.startIndex start + index + 1) 0x7FFFFFFFFFFFFFFF =
      ((min (start + index) 0x7FFFFFFFFFFFFFFF : Nat) : Int) := by
    unfold Pass.startIndex
    split <;> omega
  rw [marker, hnumber]
  rfl

/-! ## Items and their lines -/

/-- The lines of the preview of some blocks alone. -/
def previewLines (blocks : List LayoutBlock) : List (List Char) :=
  Text.lines (Layout.preview ⟨blocks⟩).toList

theorem itemPieces_eq (kind : ListKind) (startIndex : Int) (item : List LayoutBlock × Nat) :
    itemPieces kind startIndex item =
      itemLines (marker kind startIndex item.2) (previewLines item.1) := by
  rw [itemPieces, previewLines, Layout.preview, String.toList_ofList]

/-- Pieces that are lines are the lines of the text they make. -/
theorem lines_flatMap_line {pieces : List (List Char)} (hfeed : ∀ piece ∈ pieces, '\n' ∉ piece)
    (hreturn : ∀ piece ∈ pieces, '\r' ∉ piece) :
    Text.lines (pieces.flatMap (line [])) = pieces := by
  induction pieces with
  | nil => rfl
  | cons piece pieces ih =>
    rw [List.forall_mem_cons] at hfeed hreturn
    rw [flatMap_line_cons, List.nil_append, Text.lines_line hfeed.1, Text.chop_reverse hreturn.1,
      ih hfeed.2 hreturn.2]

/-- The lines of a list without carriage returns are those of its items. -/
theorem lines_blockText_list {kind : ListKind} {startIndex : Int} {items : List (List LayoutBlock)}
    (h : ∀ s ∈ LayoutBlock.textsItems items, '\r' ∉ s.toList) :
    Text.lines (blockText [] (.list kind startIndex items)) =
      items.zipIdx.flatMap (itemPieces kind startIndex) := by
  rw [blockText_eq_flatMap, blockPieces]
  refine lines_flatMap_line ?_ ?_
  · rw [List.forall_mem_flatMap]
    exact fun item _ => newline_notMem_itemPieces kind startIndex item
  · rw [List.forall_mem_flatMap]
    exact notMem_itemPieces rfl (by decide) kind startIndex items 0 h

theorem previewLines_eq_nil_iff {blocks : List LayoutBlock} :
    previewLines blocks = [] ↔ Layout.preview ⟨blocks⟩ = "" := by
  rw [previewLines, Text.lines_eq_nil_iff, String.toList_eq_nil_iff]

/-- Without the marker and the indent an item has the lines it was made of. -/
theorem map_drop_itemLines (marker : List Char) (ls : List (List Char)) :
    (itemLines marker ls).map (List.drop marker.length) = if ls = [] then [[]] else ls := by
  cases ls with
  | nil => simp [itemLines]
  | cons first rest =>
    have hindent : (List.drop marker.length ∘ (List.replicate marker.length ' ' ++ ·)) = id := by
      funext l
      exact List.drop_left' List.length_replicate
    simp [itemLines, hindent]

end Preview

/-! ## Rendered lists -/

/-- The calls of a list add its block, whatever is open. -/
theorem ParsesItems.foldl_emit_list {doc : Document} {inner : List Call}
    {items : List (List LayoutBlock)} (h : ParsesItems doc inner items) (b : LayoutBuilder)
    (kind : ListKind) (start : Int) :
    (.listStart kind start :: (inner ++ [.listEnd])).foldl (LayoutBuilder.emit doc) b =
      b.push (.list kind start items) := by
  rw [List.foldl_cons, List.foldl_append, LayoutBuilder.emit, LayoutBuilder.enter,
    h.foldl_emit_items rfl, List.nil_append]
  rfl

/-- The blocks that the default rules make of an item of a list, with some levels left. -/
def Document.itemBlocks (doc : Document) (levels : Nat) (id : NodeId) : List LayoutBlock :=
  (LayoutBuilder.ofCalls doc (doc.itemBody (doc.calls levels) id)).blocks

namespace Document.Holds

variable {doc : Document} {id : NodeId} {t : Tree}

theorem itemBlocks_eq (h : doc.Holds id t) (levels : Nat) :
    doc.itemBlocks levels id = Tree.itemLayout (Tree.layout levels) t := by
  rw [itemBlocks, (parses_itemBody (fun _ _ => parses_calls levels) h).ofCalls]

theorem parsesItems_itemBlocks (h : doc.Holds id t) (levels : Nat) :
    ParsesItems doc (doc.itemCalls (doc.calls levels) 0 (doc.children id))
      ((doc.children id).map (doc.itemBlocks levels)) := by
  have hitems := parses_itemCalls (fun _ _ => parses_calls levels) h.children 0
  have hblocks : List.Forall₂ (· = ·) ((doc.children id).map (doc.itemBlocks levels))
      (t.children.map (Tree.itemLayout (Tree.layout levels))) := by
    rw [List.forall₂_map_left_iff, List.forall₂_map_right_iff]
    exact h.children.imp fun _ _ hcu => hcu.itemBlocks_eq levels
  rw [List.forall₂_eq_eq_eq] at hblocks
  rwa [hblocks]

/-- **The default rules make one list block of an ordered list**, with an item for each child. -/
theorem render_orderedList (h : doc.Holds id t) {start : Nat}
    (hkind : doc.kind id = .block (.orderedList start)) (levels : Nat) (p : Pass LayoutBuilder) :
    (Pass.render ⟨doc, .none⟩ (levels + 1) id p).sink =
      p.sink.push (.list .ordered (Pass.startIndex start)
        ((doc.children id).map (doc.itemBlocks levels))) := by
  have hcalls : doc.calls (levels + 1) id =
      doc.listCalls (doc.calls levels) .ordered (Pass.startIndex start) (doc.children id) := by
    rw [Document.calls, hkind]
    rfl
  rw [Pass.render_none, Pass.extend, hcalls]
  exact (h.parsesItems_itemBlocks levels).foldl_emit_list p.sink _ _

end Document.Holds

namespace Preview

/-- The preview of an ordered list: its items, counted from the start. -/
theorem blockText_orderedList (margin : List Char) (start : Nat)
    (items : List (List LayoutBlock)) :
    blockText margin (.list .ordered (Pass.startIndex start) items) =
      items.zipIdx.flatMap fun item =>
        (itemLines (numberMark (min (start + item.2) 0x7FFFFFFFFFFFFFFF))
          (previewLines item.1)).flatMap (line margin) := by
  rw [blockText_eq_flatMap, blockPieces, List.flatMap_assoc]
  simp only [itemPieces_eq, marker_startIndex]

/-- **List items are numbered and aligned correctly.** An ordered list is rendered to one list
block, whose items are counted from its start up to the largest number, and no step of the
arithmetic overflows. In lists of either kind without carriage returns, an item's lines without
its marker and the indent of the same width are the lines of the item's own preview. -/
theorem list_items_numbered_and_aligned :
    (∀ (operations : List Builder.Operation) (id : NodeId) (start levels : Nat),
      let doc := (Builder.run operations).document
      let items := (doc.children id).map (doc.itemBlocks levels)
      let list : LayoutBlock := .list .ordered (Pass.startIndex start) items
      doc.kind id = .block (.orderedList start) →
        (∀ p : Pass LayoutBuilder,
          (Pass.render ⟨doc, .none⟩ (levels + 1) id p).sink = p.sink.push list) ∧
        (Rendering.ofPass (Pass.run ⟨doc, .none⟩ (levels + 1) (some id) {})).layout = ⟨[list]⟩ ∧
        (∀ margin, blockText margin list = items.zipIdx.flatMap fun item =>
          (itemLines (numberMark (min (start + item.2) 0x7FFFFFFFFFFFFFFF))
            (previewLines item.1)).flatMap (line margin)) ∧
        ∀ index < 0x7FFFFFFFFFFFFFFF, (startIndex? start).bind (itemNumber? · index) =
          some (min ((start : Int) + index) 0x7FFFFFFFFFFFFFFF)) ∧
    ∀ (kind : ListKind) (startIndex : Int) (items : List (List LayoutBlock)),
      (∀ s ∈ LayoutBlock.textsItems items, '\r' ∉ s.toList) →
        let lines (item : List LayoutBlock × Nat) : List (List Char) :=
          itemLines (marker kind startIndex item.2) (previewLines item.1)
        Text.lines (blockText [] (.list kind startIndex items)) = items.zipIdx.flatMap lines ∧
        ∀ item ∈ items.zipIdx,
          (lines item).map (List.drop (marker kind startIndex item.2).length) =
            if Layout.preview ⟨item.1⟩ = "" then [[]] else previewLines item.1 := by
  constructor
  · intro operations id start levels doc items list hkind
    have hrender := (Tree.holds_subtree_run operations id).render_orderedList hkind levels
    refine ⟨hrender, ?_, fun margin => blockText_orderedList margin start items,
      fun index hindex => bind_itemNumber? hindex start⟩
    have hrun : (Pass.run ⟨doc, .none⟩ (levels + 1) (some id) ({} : LayoutBuilder)).sink =
        { blocks := [list] } := hrender { sink := {} }
    rw [Rendering.ofPass, hrun]
    rfl
  · intro kind startIndex items htexts lines
    constructor
    · have hlines : itemPieces kind startIndex = lines := funext (itemPieces_eq kind startIndex)
      rw [lines_blockText_list htexts, hlines]
    · intro item _
      simp only [lines, map_drop_itemLines, previewLines_eq_nil_iff]

/-- A list that counts from nine to ten: its items have markers of two widths. -/
theorem list_items_from_nine :
    let doc := (Builder.run [.openNode (.block (.orderedList 9)),
      .openNode (.block .listItem), .openNode (.block (.paragraph false)),
      .leaf (.inline (.text "a")), .leaf (.inline .hardBreak), .leaf (.inline (.text "b")),
      .close, .close, .openNode (.block .listItem), .openNode (.block (.paragraph false)),
      .leaf (.inline (.text "c"))]).document
    let items : List (List LayoutBlock) :=
      [[.text [⟨"a\nb", {}, none⟩] false], [.text [⟨"c", {}, none⟩] false]]
    doc.kind 1 = .block (.orderedList 9) ∧
      (Rendering.ofPass (Pass.run ⟨doc, .none⟩ 2 (some 1) {})).layout =
        ⟨[.list .ordered 8 items]⟩ ∧
      (∀ s ∈ LayoutBlock.textsItems items, '\r' ∉ s.toList) ∧
      Text.lines (blockText [] (.list .ordered 8 items)) =
        ["9. a".toList, "   b".toList, "10. c".toList] := by
  intro doc items
  obtain ⟨hrendered, haligned⟩ := list_items_numbered_and_aligned
  have hkind : doc.kind 1 = .block (.orderedList 9) := by rfl
  have htexts : ∀ s ∈ LayoutBlock.textsItems items, '\r' ∉ s.toList := by decide
  refine ⟨hkind, ?_, htexts, ?_⟩
  · rw [(hrendered _ 1 9 1 hkind).2.1]
    rfl
  · rw [(haligned .ordered 8 items htexts).1]
    decide

end Preview

end MarkdownTree
