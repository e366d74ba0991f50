import MarkdownTree.Proofs.Layout.Denotation
import MarkdownTree.Proofs.Tree.Clean

/-!
# What a layout shows

A reader of a layout gets to see the text of its text blocks and table cells, and its code and HTML
blocks. All of this is already in the tree, and with levels enough a clean tree is shown completely
and in order.

* `Shown` — text, and code and HTML blocks, each in order.
* `Layout.shown` — what is shown by a layout, its containers read from front to back.
* `Tree.shown` — what there is to be shown of a tree.
* `Tree.shownAll_layout` — a clean tree within the levels is shown completely.
* `Enriches.shown_eq` — definitions and marks show nothing.
-/

namespace MarkdownTree

/-- Text, and code and HTML blocks, each in order. -/
structure Shown where
  text : String
  literals : List LayoutBlock
deriving Repr, Inhabited

namespace Shown

/-- Nothing. -/
def none : Shown := ⟨"", []⟩

/-- Some text. -/
def ofText (s : String) : Shown := ⟨s, []⟩

/-- A code or HTML block. -/
def ofLiteral (b : LayoutBlock) : Shown := ⟨"", [b]⟩

instance : Append Shown := ⟨fun s s' => ⟨s.text ++ s'.text, s.literals ++ s'.literals⟩⟩

theorem append_def (s s' : Shown) : s ++ s' = ⟨s.text ++ s'.text, s.literals ++ s'.literals⟩ := rfl

@[simp] theorem none_append (s : Shown) : none ++ s = s := by
  simp [append_def, none]

@[simp] theorem append_none (s : Shown) : s ++ none = s := by
  simp [append_def, none]

theorem append_assoc (s s' s'' : Shown) : s ++ s' ++ s'' = s ++ (s' ++ s'') := by
  simp [append_def, String.append_assoc]

theorem ofText_append (s s' : String) : ofText (s ++ s') = ofText s ++ ofText s' := rfl

end Shown

/-- The text of all cells of a table: the header rows, then the body rows. -/
def Table.text (t : Table) : String :=
  String.join ((t.header ++ t.rows).flatten.map Span.plainText)

/-! ## Layouts -/

namespace LayoutBlock

mutual

/-- What a block shows. -/
def shown : LayoutBlock → Shown
  | .quote content => shownAll content
  | .heading _ content => shownAll content
  | .list _ _ items => shownItems items
  | .text spans _ => .ofText (Span.plainText spans)
  | .table t => .ofText t.text
  | .code language literal => .ofLiteral (.code language literal)
  | .html literal => .ofLiteral (.html literal)
  | .rule | .run _ | .empty => .none

/-- What some blocks show, in order. -/
def shownAll : List LayoutBlock → Shown
  | [] => .none
  | b :: bs => b.shown ++ shownAll bs

/-- What the items of a list show, in order. -/
def shownItems : List (List LayoutBlock) → Shown
  | [] => .none
  | content :: items => shownAll content ++ shownItems items

end

theorem shownAll_append : ∀ bs cs : List LayoutBlock,
    shownAll (bs ++ cs) = shownAll bs ++ shownAll cs
  | [], cs => by rw [List.nil_append, shownAll, Shown.none_append]
  | b :: bs, cs => by
    rw [List.cons_append, shownAll, shownAll, shownAll_append bs cs, Shown.append_assoc]

theorem shownAll_singleton (b : LayoutBlock) : shownAll [b] = b.shown := by
  rw [shownAll, shownAll, Shown.append_none]

end LayoutBlock

/-- What a layout shows. -/
def Layout.shown (l : Layout) : Shown :=
  LayoutBlock.shownAll l.blocks

/-! ## Trees -/

namespace Tree

mutual

/-- The text of an inline tree. -/
def text : Tree → String
  | node (.block _) _ => ""
  | node (.inline i) cs =>
    if i.isContainer then texts cs else (SpanCollector.leafText {} i).1

/-- The text of some inline trees in order. -/
def texts : List Tree → String
  | [] => ""
  | t :: ts => t.text ++ texts ts

end

mutual

/-- What there is to be shown of a block. -/
def shown : Tree → Shown
  | node (.inline _) _ => .none
  | node (.block b) cs =>
    match b with
    | .document | .blockQuote | .footReferenceDefinition _ => shownAll cs
    | .unorderedList | .orderedList _ => shownItems cs
    | .paragraph _ | .heading _ => .ofText (texts cs)
    | .tableRoot alignments => .ofText (table (node (.block (.tableRoot alignments)) cs)).text
    | .indentedCodeBlock literal => .ofLiteral (.code none (Pass.codeText literal))
    | .fencedCodeBlock info literal =>
      .ofLiteral (.code (Pass.fenceLanguage info) (Pass.codeText literal))
    | .htmlBlock literal => .ofLiteral (.html literal)
    | .thematicBreak | .linkReferenceDefinition _ _ _ | .footDefinition _ | .listItem
    | .tableHeader | .tableBody | .tableRow | .tableCell => .none

/-- What there is to be shown of some blocks, in order. -/
def shownAll : List Tree → Shown
  | [] => .none
  | t :: ts => t.shown ++ shownAll ts

/-- What there is to be shown of some list items, in order. -/
def shownItems : List Tree → Shown
  | [] => .none
  | node _ cs :: ts => shownAll cs ++ shownItems ts

end

theorem texts_append : ∀ ts us : List Tree, texts (ts ++ us) = texts ts ++ texts us
  | [], us => by rw [List.nil_append, texts, String.empty_append]
  | t :: ts, us => by rw [List.cons_append, texts, texts, texts_append ts us, String.append_assoc]

theorem shownAll_append : ∀ ts us : List Tree, shownAll (ts ++ us) = shownAll ts ++ shownAll us
  | [], us => by rw [List.nil_append, shownAll, Shown.none_append]
  | t :: ts, us => by
    rw [List.cons_append, shownAll, shownAll, shownAll_append ts us, Shown.append_assoc]

mutual

/-- The style and the link of a piece do not matter for its text. -/
theorem plainText_flatten : ∀ (t : Tree) (style : Style) (link : Option String),
    Span.plainText (t.flatten style link) = t.text
  | node (.block b) cs, style, link => rfl
  | node (.inline i) cs, style, link => by
    rw [flatten, text]
    cases i with
    | emphasis => exact plainText_flattenAll cs _ _
    | strong => exact plainText_flattenAll cs _ _
    | strikethrough => exact plainText_flattenAll cs _ _
    | superscript => exact plainText_flattenAll cs _ _
    | subscript => exact plainText_flattenAll cs _ _
    | link destination title => exact plainText_flattenAll cs _ _
    | image destination title => exact plainText_flattenAll cs _ _
    | _ => simp [SpanCollector.enter, SpanCollector.leafText, Span.plainText, Inline.isContainer]

theorem plainText_flattenAll : ∀ (ts : List Tree) (style : Style) (link : Option String),
    Span.plainText (flattenAll style link ts) = texts ts
  | [], _, _ => rfl
  | t :: ts, style, link => by
    rw [flattenAll, texts, Span.plainText_append, plainText_flatten t style link,
      plainText_flattenAll ts style link]

end

/-- **The spans of a tree have the text of the inline trees below it.** -/
theorem plainText_spans (t : Tree) : Span.plainText t.spans = texts t.children := by
  rw [spans, Span.plainText_merge, plainText_flattenAll]

/-! ## Layouts of clean trees -/

theorem shownAll_flatMap {layout : Tree → List LayoutBlock} : ∀ {ts : List Tree},
    (∀ t ∈ ts, LayoutBlock.shownAll (layout t) = t.shown) →
      LayoutBlock.shownAll (ts.flatMap layout) = shownAll ts
  | [], _ => rfl
  | t :: ts, h => by
    rw [List.forall_mem_cons] at h
    rw [List.flatMap_cons, LayoutBlock.shownAll_append, h.1, shownAll_flatMap h.2, shownAll]

theorem shownAll_itemLayout {layout : Tree → List LayoutBlock} {t : Tree}
    (h : ∀ u ∈ t.children, LayoutBlock.shownAll (layout u) = u.shown) :
    LayoutBlock.shownAll (itemLayout layout t) = shownAll t.children := by
  obtain ⟨k, cs⟩ := t
  cases cs with
  | nil => rfl
  | cons c cs => exact shownAll_flatMap h

theorem shownItems_map_itemLayout {layout : Tree → List LayoutBlock} : ∀ {ts : List Tree},
    (∀ t ∈ ts, ∀ u ∈ t.children, LayoutBlock.shownAll (layout u) = u.shown) →
      LayoutBlock.shownItems (ts.map (itemLayout layout)) = shownItems ts
  | [], _ => rfl
  | node k cs :: ts, h => by
    rw [List.forall_mem_cons] at h
    rw [List.map_cons, LayoutBlock.shownItems, shownAll_itemLayout h.1,
      shownItems_map_itemLayout h.2, shownItems]
    rfl

/-- **A clean tree is shown completely**, if the levels are enough for its nesting. -/
theorem shownAll_layout : ∀ {levels : Nat} {t : Tree}, t.clean = true → t.nesting < levels →
    LayoutBlock.shownAll (t.layout levels) = t.shown
  | levels + 1, node (.inline i) cs, h, _ => by simp [clean] at h
  | levels + 1, node (.block b) cs, h, hl => by
    have hchildren : ∀ {ts : List Tree}, cleanAll ts = true → nestingAll ts ≤ levels →
        ∀ t ∈ ts, LayoutBlock.shownAll (t.layout levels) = t.shown := by
      intro ts hclean hnesting t ht
      exact shownAll_layout (cleanAll_iff.mp hclean t ht) (nestingAll_le_iff.mp hnesting t ht)
    have hitems : cleanItems cs = true → nestingItems cs ≤ levels →
        ∀ t ∈ cs, ∀ u ∈ t.children, LayoutBlock.shownAll (u.layout levels) = u.shown := by
      intro hclean hnesting t ht
      exact hchildren (cleanItems_iff.mp hclean t ht).2 (nestingItems_le_iff.mp hnesting t ht)
    have hl := Nat.le_of_lt_succ hl
    -- containers pass on what is below them, all other blocks show themselves
    show LayoutBlock.shownAll (blockLayout (layout levels) (node (.block b) cs) b) = _
    cases b with
    | document => exact shownAll_flatMap (hchildren h hl)
    | blockQuote =>
      rw [blockLayout, LayoutBlock.shownAll_singleton, LayoutBlock.shown]
      exact shownAll_flatMap (hchildren h hl)
    | footReferenceDefinition label =>
      rw [blockLayout, LayoutBlock.shownAll, LayoutBlock.shown, Shown.none_append]
      exact shownAll_flatMap (hchildren h hl)
    | unorderedList =>
      rw [blockLayout, children, filter_isListItem h, LayoutBlock.shownAll_singleton,
        LayoutBlock.shown]
      exact shownItems_map_itemLayout (hitems h hl)
    | orderedList start =>
      rw [blockLayout, LayoutBlock.shownAll_singleton, LayoutBlock.shown]
      exact shownItems_map_itemLayout (hitems h hl)
    | heading level =>
      rw [blockLayout, LayoutBlock.shownAll_singleton, LayoutBlock.shown,
        LayoutBlock.shownAll_singleton, LayoutBlock.shown, plainText_spans]
      rfl
    | paragraph fadeOut =>
      rw [blockLayout, LayoutBlock.shownAll_singleton, LayoutBlock.shown, plainText_spans]
      rfl
    | thematicBreak => rfl
    | indentedCodeBlock literal => exact LayoutBlock.shownAll_singleton _
    | fencedCodeBlock info literal => exact LayoutBlock.shownAll_singleton _
    | htmlBlock literal => exact LayoutBlock.shownAll_singleton _
    | tableRoot alignments => exact LayoutBlock.shownAll_singleton _
    | footDefinition label => rfl
    | linkReferenceDefinition label destination title => rfl
    | listItem => cases h
    | tableHeader => cases h
    | tableBody => cases h
    | tableRow => cases h
    | tableCell => cases h

/-! ## Definitions and marks -/

mutual

/-- **A tree that enriches a clean one shows the same.** -/
theorem Enriches.shown_eq : ∀ {t u : Tree}, t.Enriches u → u.clean = true → t.shown = u.shown
  | .node k cs, .node (.inline i) cs', _, h => by simp [Tree.clean] at h
  | .node k cs, .node (.block b) cs', .node hk hcs, h => by
    by_cases hb : NodeKind.isParagraph (.block b) = true
    · cases b with
      | paragraph fadeOut =>
        obtain ⟨fadeOut', rfl⟩ := NodeKind.exists_paragraph_of_plain_eq hk
        rw [hcs.eq_of_rigid rfl (allRigid_of_allInline h)]
        rfl
      | _ => cases hb
    · cases NodeKind.eq_of_plain_eq hk (Bool.eq_false_iff.mpr hb)
      cases b with
      | document => exact hcs.shownAll_eq h
      | blockQuote => exact hcs.shownAll_eq h
      | footReferenceDefinition label => exact hcs.shownAll_eq h
      | unorderedList => exact hcs.shownItems_eq rfl h
      | orderedList start => exact hcs.shownItems_eq rfl h
      | paragraph fadeOut => exact absurd rfl hb
      -- neither inline content nor a table takes definitions
      | heading level => rw [hcs.eq_of_rigid rfl (allRigid_of_allInline h)]
      | tableRoot alignments => rw [hcs.eq_of_rigid rfl (allRigid_of_tabularPart h)]
      | _ => rfl

theorem EnrichesAll.shownAll_eq : ∀ {accepts : Bool} {ts us : List Tree},
    EnrichesAll accepts ts us → cleanAll us = true → shownAll ts = shownAll us
  | _, _, _, .nil, _ => rfl
  | _, _, _, .cons ht hts, h => by
    rw [Tree.cleanAll, Bool.and_eq_true] at h
    rw [shownAll, shownAll, ht.shown_eq h.1, hts.shownAll_eq h.2]
  | _, _, _, .definition _ _ _ hts, h => by
    rw [shownAll, hts.shownAll_eq h]
    exact Shown.none_append _

theorem EnrichesAll.shownItems_eq : ∀ {accepts : Bool} {ts us : List Tree},
    EnrichesAll accepts ts us → accepts = false → cleanItems us = true →
      shownItems ts = shownItems us
  | _, _, _, .nil, _, _ => rfl
  | _, _, _, @EnrichesAll.cons _ (.node k cs) (.node k' cs') _ _ (.node hk hcs) hts, haccepts,
      h => by
    rw [Tree.cleanItems, Bool.and_eq_true, Bool.and_eq_true] at h
    rw [shownItems, shownItems, hcs.shownAll_eq h.2.1, hts.shownItems_eq haccepts h.2.2]

end

end Tree

end MarkdownTree
