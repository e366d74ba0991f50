import MarkdownTree.Proofs.Tree.Enriched
import MarkdownTree.Proofs.Tree.Tables

/-!
# Clean trees

A tree is clean if every node stands where the renderer expects it: blocks in block containers,
items in lists, table parts in tables, and nothing but inline nodes in paragraphs, headings and
cells. How deep its blocks are nested decides whether the limit of a pass is ever met.

* `Tree.clean` — the shape that the default rules expect.
* `Tree.nesting` — how many levels of blocks a pass goes down.
* `Tree.inner` — the trees that a pass goes on to from a tree.
* `Enriches.clean` — definitions and marks keep a tree clean.
-/

namespace MarkdownTree

namespace Tree

mutual

/-- Whether a tree is a block that may stand among blocks, and so on below it. -/
def clean : Tree → Bool
  | node (.inline _) _ => false
  | node (.block b) cs =>
    match b with
    | .document | .blockQuote | .footReferenceDefinition _ => cleanAll cs
    | .unorderedList | .orderedList _ => cleanItems cs
    | .paragraph _ | .heading _ => allInline cs
    | .tableRoot _ => cs.all tabularPart
    | .thematicBreak | .indentedCodeBlock _ | .fencedCodeBlock _ _ | .htmlBlock _
    | .linkReferenceDefinition _ _ _ | .footDefinition _ => true
    | .listItem | .tableHeader | .tableBody | .tableRow | .tableCell => false

/-- Whether trees are blocks that may stand among blocks. -/
def cleanAll : List Tree → Bool
  | [] => true
  | t :: ts => t.clean && cleanAll ts

/-- Whether trees are list items with such blocks. -/
def cleanItems : List Tree → Bool
  | [] => true
  | node k cs :: ts => k.isListItem && (cleanAll cs && cleanItems ts)

end

mutual

/-- The number of levels that a pass goes down below a clean tree. A list and its items are one
level. -/
def nesting : Tree → Nat
  | node (.inline _) _ => 0
  | node (.block b) cs =>
    match b with
    | .document | .blockQuote | .footReferenceDefinition _ => nestingAll cs
    | .unorderedList | .orderedList _ => nestingItems cs
    | _ => 0

/-- The number of levels with some trees. -/
def nestingAll : List Tree → Nat
  | [] => 0
  | t :: ts => max (t.nesting + 1) (nestingAll ts)

/-- The number of levels below some items. -/
def nestingItems : List Tree → Nat
  | [] => 0
  | node _ cs :: ts => max (nestingAll cs) (nestingItems ts)

end

theorem allInline_append : ∀ ts us : List Tree,
    allInline (ts ++ us) = (allInline ts && allInline us)
  | [], us => by rw [List.nil_append, allInline, Bool.true_and]
  | t :: ts, us => by
    rw [List.cons_append, allInline, allInline, allInline_append ts us, Bool.and_assoc]

theorem cleanAll_append : ∀ ts us : List Tree, cleanAll (ts ++ us) = (cleanAll ts && cleanAll us)
  | [], us => by rw [List.nil_append, cleanAll, Bool.true_and]
  | t :: ts, us => by
    rw [List.cons_append, cleanAll, cleanAll, cleanAll_append ts us, Bool.and_assoc]

theorem cleanAll_iff {ts : List Tree} : cleanAll ts = true ↔ ∀ t ∈ ts, t.clean = true := by
  induction ts with
  | nil => simp [cleanAll]
  | cons t ts ih => rw [cleanAll, Bool.and_eq_true, ih, List.forall_mem_cons]

theorem cleanItems_iff : ∀ {ts : List Tree},
    cleanItems ts = true ↔ ∀ t ∈ ts, t.kind.isListItem = true ∧ cleanAll t.children = true
  | [] => by simp [cleanItems]
  | node k cs :: ts => by
    rw [cleanItems, Bool.and_eq_true, Bool.and_eq_true, cleanItems_iff, List.forall_mem_cons,
      and_assoc]
    rfl

theorem nestingAll_le_iff {n : Nat} {ts : List Tree} :
    nestingAll ts ≤ n ↔ ∀ t ∈ ts, t.nesting < n := by
  induction ts with
  | nil => simp [nestingAll]
  | cons t ts ih => rw [nestingAll, Nat.max_le, ih, List.forall_mem_cons, Nat.succ_le_iff]

theorem nestingItems_le_iff {n : Nat} : ∀ {ts : List Tree},
    nestingItems ts ≤ n ↔ ∀ t ∈ ts, nestingAll t.children ≤ n
  | [] => by simp [nestingItems]
  | node k cs :: ts => by
    rw [nestingItems, Nat.max_le, nestingItems_le_iff, List.forall_mem_cons]
    rfl

/-! ## The trees that a pass goes on to -/

/-- The trees that the default rule of a tree goes on to. It passes over the items of a list. -/
def inner (t : Tree) : List Tree :=
  match t.kind with
  | .block .document | .block .blockQuote | .block (.footReferenceDefinition _) => t.children
  | .block .unorderedList => (t.children.filter fun c => c.kind.isListItem).flatMap children
  | .block (.orderedList _) => t.children.flatMap children
  | _ => []

theorem filter_isListItem {ts : List Tree} (h : cleanItems ts = true) :
    (ts.filter fun c => c.kind.isListItem) = ts :=
  List.filter_eq_self.mpr fun c hc => (cleanItems_iff.mp h c hc).1

theorem clean_of_mem_items {ts : List Tree} (h : cleanItems ts = true) :
    ∀ u ∈ ts.flatMap children, u.clean = true := by
  intro u hu
  obtain ⟨item, hitem, hu⟩ := List.mem_flatMap.mp hu
  exact cleanAll_iff.mp (cleanItems_iff.mp h item hitem).2 u hu

/-- A pass over a clean tree meets clean trees only. -/
theorem clean_of_mem_inner {t : Tree} (h : t.clean = true) : ∀ u ∈ t.inner, u.clean = true := by
  match t, h with
  | node (.block b) cs, h =>
    cases b with
    | document => exact cleanAll_iff.mp h
    | blockQuote => exact cleanAll_iff.mp h
    | footReferenceDefinition label => exact cleanAll_iff.mp h
    | unorderedList =>
      show ∀ u ∈ (cs.filter fun c => c.kind.isListItem).flatMap children, _
      rw [filter_isListItem h]
      exact clean_of_mem_items h
    | orderedList start => exact clean_of_mem_items h
    | _ => exact fun u hu => nomatch hu

theorem nestingItems_le_iff_flatMap {ts : List Tree} {n : Nat} :
    nestingItems ts ≤ n ↔ ∀ u ∈ ts.flatMap children, u.nesting < n := by
  rw [nestingItems_le_iff, List.forall_mem_flatMap]
  exact forall₂_congr fun t _ => nestingAll_le_iff

/-- The nesting of a clean tree is that of the trees that a pass goes on to, and one level more. -/
theorem nesting_le_iff {t : Tree} (h : t.clean = true) {n : Nat} :
    t.nesting ≤ n ↔ ∀ u ∈ t.inner, u.nesting < n := by
  match t, h with
  | node (.block b) cs, h =>
    cases b with
    | document => exact nestingAll_le_iff
    | blockQuote => exact nestingAll_le_iff
    | footReferenceDefinition label => exact nestingAll_le_iff
    | unorderedList =>
      show _ ↔ ∀ u ∈ (cs.filter fun c => c.kind.isListItem).flatMap children, _
      rw [filter_isListItem h]
      exact nestingItems_le_iff_flatMap
    | orderedList start => exact nestingItems_le_iff_flatMap
    | _ => exact iff_of_true (Nat.zero_le n) fun u hu => nomatch hu

/-! ## Trees that nothing can be put into -/

mutual

/-- Whether no node of a tree is a paragraph or accepts definitions. -/
def rigid : Tree → Bool
  | node k cs => (!k.isParagraph && !k.acceptsDefinitions) && allRigid cs

def allRigid : List Tree → Bool
  | [] => true
  | t :: ts => t.rigid && allRigid ts

end

theorem allRigid_iff {ts : List Tree} : allRigid ts = true ↔ ∀ t ∈ ts, t.rigid = true := by
  induction ts with
  | nil => simp [allRigid]
  | cons t ts ih => rw [allRigid, Bool.and_eq_true, ih, List.forall_mem_cons]

mutual

theorem rigid_of_isInline : ∀ {t : Tree}, t.isInline = true → t.rigid = true
  | node (.inline i) cs, h => by
    rw [rigid, Bool.and_eq_true]
    exact ⟨rfl, allRigid_of_allInline h⟩
  | node (.block b) cs, h => by simp [isInline] at h

theorem allRigid_of_allInline : ∀ {ts : List Tree}, allInline ts = true → allRigid ts = true
  | [], _ => rfl
  | t :: ts, h => by
    rw [allInline, Bool.and_eq_true] at h
    rw [allRigid, rigid_of_isInline h.1, allRigid_of_allInline h.2, Bool.and_true]

end

theorem rigid_of_tabularCell {t : Tree} (h : t.tabularCell = true) : t.rigid = true := by
  obtain ⟨k, cs⟩ := t
  obtain ⟨hk, hcs⟩ := Bool.and_eq_true_iff.mp h
  cases beq_iff_eq.mp hk
  exact allRigid_of_allInline hcs

theorem allRigid_of_tabularCell {ts : List Tree} (h : ts.all tabularCell = true) :
    allRigid ts = true :=
  allRigid_iff.mpr fun t ht => rigid_of_tabularCell (List.all_eq_true.mp h t ht)

theorem rigid_of_tabularRow {t : Tree} (h : t.tabularRow = true) : t.rigid = true := by
  obtain ⟨k, cs⟩ := t
  obtain ⟨hk, hcs⟩ := Bool.and_eq_true_iff.mp h
  cases beq_iff_eq.mp hk
  exact allRigid_of_tabularCell hcs

theorem allRigid_of_tabularRow {ts : List Tree} (h : ts.all tabularRow = true) :
    allRigid ts = true :=
  allRigid_iff.mpr fun t ht => rigid_of_tabularRow (List.all_eq_true.mp h t ht)

theorem rigid_of_tabularPart {t : Tree} (h : t.tabularPart = true) : t.rigid = true := by
  obtain ⟨k, cs⟩ := t
  unfold tabularPart at h
  split at h
  · next hk =>
    cases hk
    exact allRigid_of_tabularRow h
  · next hk =>
    cases hk
    exact allRigid_of_tabularRow h
  · next hk =>
    cases hk
    exact allRigid_of_tabularCell h
  · cases h

theorem allRigid_of_tabularPart {ts : List Tree} (h : ts.all tabularPart = true) :
    allRigid ts = true :=
  allRigid_iff.mpr fun t ht => rigid_of_tabularPart (List.all_eq_true.mp h t ht)

mutual

/-- A tree that enriches a rigid one is the same tree. -/
theorem Enriches.eq_of_rigid : ∀ {t u : Tree}, t.Enriches u → u.rigid = true → t = u
  | .node k cs, .node k' cs', .node hk hcs, h => by
    rw [rigid, Bool.and_eq_true, Bool.and_eq_true, Bool.not_eq_true', Bool.not_eq_true'] at h
    have hkind := NodeKind.eq_of_plain_eq hk h.1.1
    rw [hkind, EnrichesAll.eq_of_rigid hcs (by rw [hkind]; exact h.1.2) h.2]

theorem EnrichesAll.eq_of_rigid : ∀ {accepts : Bool} {ts us : List Tree},
    EnrichesAll accepts ts us → accepts = false → allRigid us = true → ts = us
  | _, _, _, .nil, _, _ => rfl
  | _, _, _, .cons ht hts, haccepts, h => by
    rw [allRigid, Bool.and_eq_true] at h
    rw [Enriches.eq_of_rigid ht h.1, EnrichesAll.eq_of_rigid hts haccepts h.2]

end

/-! ## Clean trees stay clean -/

mutual

/-- **A tree that enriches a clean one is clean.** -/
theorem Enriches.clean : ∀ {t u : Tree}, t.Enriches u → u.clean = true → t.clean = true
  | .node k cs, .node (.inline i) cs', _, h => by simp [Tree.clean] at h
  | .node k cs, .node (.block b) cs', .node hk hcs, h => by
    by_cases hb : NodeKind.isParagraph (.block b) = true
    · cases b with
      | paragraph fadeOut =>
        -- the mark may differ, but inline content takes no definitions
        obtain ⟨fadeOut', rfl⟩ := NodeKind.exists_paragraph_of_plain_eq hk
        rw [hcs.eq_of_rigid rfl (allRigid_of_allInline h)]
        exact h
      | _ => cases hb
    · cases NodeKind.eq_of_plain_eq hk (Bool.eq_false_iff.mpr hb)
      cases b with
      | document => exact hcs.cleanAll h
      | blockQuote => exact hcs.cleanAll h
      | footReferenceDefinition label => exact hcs.cleanAll h
      | unorderedList => exact hcs.cleanItems rfl h
      | orderedList start => exact hcs.cleanItems rfl h
      | paragraph fadeOut => exact absurd rfl hb
      -- neither inline content nor a table takes definitions
      | heading level =>
        rw [hcs.eq_of_rigid rfl (allRigid_of_allInline h)]
        exact h
      | tableRoot alignments =>
        rw [hcs.eq_of_rigid rfl (allRigid_of_tabularPart h)]
        exact h
      | thematicBreak => rfl
      | indentedCodeBlock literal => rfl
      | fencedCodeBlock info literal => rfl
      | htmlBlock literal => rfl
      | linkReferenceDefinition label destination title => rfl
      | footDefinition label => rfl
      | listItem => cases h
      | tableHeader => cases h
      | tableBody => cases h
      | tableRow => cases h
      | tableCell => cases h

theorem EnrichesAll.cleanAll : ∀ {accepts : Bool} {ts us : List Tree},
    EnrichesAll accepts ts us → Tree.cleanAll us = true → Tree.cleanAll ts = true
  | _, _, _, .nil, h => h
  | _, _, _, .cons ht hts, h => by
    rw [Tree.cleanAll, Bool.and_eq_true] at h ⊢
    exact ⟨ht.clean h.1, hts.cleanAll h.2⟩
  | _, _, _, .definition _ _ _ hts, h => by
    rw [Tree.cleanAll, hts.cleanAll h]
    rfl

theorem EnrichesAll.cleanItems : ∀ {accepts : Bool} {ts us : List Tree},
    EnrichesAll accepts ts us → accepts = false → Tree.cleanItems us = true →
      Tree.cleanItems ts = true
  | _, _, _, .nil, _, h => h
  | _, _, _, @EnrichesAll.cons _ (.node k cs) (.node k' cs') _ _ (.node hk hcs) hts, haccepts,
      h => by
    rw [Tree.cleanItems, Bool.and_eq_true, Bool.and_eq_true] at h ⊢
    have hitem : k'.isParagraph = false := by
      unfold NodeKind.isListItem at h
      split at h
      · rfl
      · cases h.1
    rw [NodeKind.eq_of_plain_eq hk hitem]
    exact ⟨h.1, hcs.cleanAll h.2.1, hts.cleanItems haccepts h.2.2⟩

end

end Tree

end MarkdownTree
