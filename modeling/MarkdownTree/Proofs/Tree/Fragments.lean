import Mathlib.Data.List.SplitBy
import MarkdownTree.Log
import MarkdownTree.Proofs.Tree.Spans
import MarkdownTree.Proofs.Tree.Subtrees

/-!
# Fragments and runs

The inline content of a node is a sequence of leaves, each with the containers around it. What a
leaf looks like depends on these containers only, and a span is a maximal run of neighbours that
look the same.

* `Tree.fragments` — the inline leaves of a tree, with the containers around them.
* `Fragment.span` — what a fragment shows, read off its containers.
* `Span.runs`, `Span.joined` — maximal runs of pieces that look the same, and a run as one span.
* `merge_eq_map_joined` — merging joins the runs.
* `Document.Meets` — the blocks that are met on the way down through inline containers.
* `spans_eq_joined_runs` — the spans of a node, and the blocks that are left out of them.
-/

namespace MarkdownTree

/-! ## Fragments -/

/-- The destination of a link or an image. -/
def Inline.destination? : Inline → Option String
  | .link destination _ | .image destination _ => some destination
  | _ => none

/-- An inline leaf and the inline containers around it, innermost first. -/
structure Fragment where
  leaf : Inline
  around : List Inline
deriving DecidableEq, Repr, Inhabited

/-- The style that containers give to everything inside. -/
def Style.within (around : List Inline) : Style where
  strong := around.contains .strong
  emphasis := around.contains .emphasis
  strikethrough := around.contains .strikethrough
  superscript := around.contains .superscript
  subscript := around.contains .subscript

/-- The destination of the innermost link or image. -/
def Inline.linkWithin (around : List Inline) : Option String :=
  around.findSome? destination?

namespace Fragment

/-- The text of a fragment. -/
def text (f : Fragment) : String :=
  match f.leaf with
  | .text s | .code s | .htmlInline s => s
  | .softBreak => " "
  | .hardBreak => "\n"
  | .footnoteReference label => "[" ++ label ++ "]"
  | .taskMarker checked => if checked then "[x] " else "[ ] "
  | _ => ""

/-- The style of a fragment. Codes and footnote references add to that of the containers. -/
def style (f : Fragment) : Style :=
  match f.leaf with
  | .code _ => { Style.within f.around with code := true }
  | .footnoteReference _ => { Style.within f.around with superscript := true }
  | _ => Style.within f.around

/-- What a fragment shows. -/
def span (f : Fragment) : Span :=
  ⟨f.text, f.style, Inline.linkWithin f.around⟩

end Fragment

namespace Tree

mutual

/-- The inline leaves of a tree inside of some containers. There are none in a block, and what lies
below a leaf does not count. -/
def fragments (around : List Inline) : Tree → List Fragment
  | node (.block _) _ => []
  | node (.inline i) cs => if i.isContainer then fragmentsAll (i :: around) cs else [⟨i, around⟩]

/-- The inline leaves of some trees in order. -/
def fragmentsAll (around : List Inline) : List Tree → List Fragment
  | [] => []
  | t :: ts => t.fragments around ++ fragmentsAll around ts

end

end Tree

/-- A container adds to the style, or sets the link, of everything inside. -/
theorem SpanCollector.enter_within (around : List Inline) (i : Inline) :
    enter (Style.within around) (Inline.linkWithin around) i =
      if i.isContainer then some (Style.within (i :: around), Inline.linkWithin (i :: around))
      else none := by
  cases i <;> simp [enter, Inline.isContainer, Style.within, Inline.linkWithin,
    Inline.destination?, List.findSome?_cons]

theorem SpanCollector.leafText_within {i : Inline} (hi : i.isContainer = false)
    (around : List Inline) :
    leafText (Style.within around) i =
      (Fragment.text ⟨i, around⟩, Fragment.style ⟨i, around⟩) := by
  cases i with
  | text s => rfl
  | code s => rfl
  | htmlInline s => rfl
  | softBreak => rfl
  | hardBreak => rfl
  | footnoteReference label => rfl
  | taskMarker checked => rfl
  | _ => cases hi

namespace Tree

mutual

/-- The pieces of text of a tree are its fragments. -/
theorem flatten_within : ∀ (t : Tree) (around : List Inline),
    t.flatten (Style.within around) (Inline.linkWithin around) =
      (t.fragments around).map Fragment.span
  | node (.block _) _, _ => rfl
  | node (.inline i) cs, around => by
    rw [flatten, fragments, SpanCollector.enter_within]
    by_cases hi : i.isContainer = true
    · rw [if_pos hi, if_pos hi]
      exact flattenAll_within cs (i :: around)
    · rw [if_neg hi, if_neg hi, SpanCollector.leafText_within (Bool.eq_false_iff.mpr hi)]
      rfl

theorem flattenAll_within : ∀ (ts : List Tree) (around : List Inline),
    flattenAll (Style.within around) (Inline.linkWithin around) ts =
      (fragmentsAll around ts).map Fragment.span
  | [], _ => rfl
  | t :: ts, around => by
    rw [flattenAll, fragmentsAll, List.map_append, flatten_within t, flattenAll_within ts]

end

/-- The spans of a tree are its merged fragments. -/
theorem spans_eq_merge (t : Tree) :
    t.spans = Span.merge ((fragmentsAll [] t.children).map Fragment.span) := by
  rw [spans, ← flattenAll_within]
  rfl

end Tree

/-! ## Runs -/

namespace Span

/-- Whether two spans have the same style and link. -/
def sameLook (s s' : Span) : Bool :=
  s.style == s'.style && s.link == s'.link

/-- The maximal runs of neighbours of equal style and link, once the empty pieces are dropped. -/
def runs (pieces : List Span) : List (List Span) :=
  (pieces.filter fun s => !s.text.isEmpty).splitBy sameLook

/-- A run as one span: the style and link of its first piece, and the text of all. -/
def joined (run : List Span) : Span :=
  ⟨plainText run, (run.head?.map style).getD {}, run.head?.bind link⟩

theorem sameLook_iff {s s' : Span} :
    s.sameLook s' = true ↔ s.style = s'.style ∧ s.link = s'.link := by
  simp [sameLook]

/-- A run looks like its first piece. -/
theorem joined_cons (x : Span) (run : List Span) :
    joined (x :: run) = ⟨x.text ++ plainText run, x.style, x.link⟩ := by
  simp [joined, plainText]

/-- Whether some lists are the maximal runs of neighbours that look the same. -/
structure AreRuns (rs : List (List Span)) : Prop where
  ne_nil : [] ∉ rs
  alike : ∀ run ∈ rs, run.IsChain fun s s' => s.sameLook s'
  apart : rs.IsChain fun run run' => ∃ h h', sameLook (run.getLast h) (run'.head h') = false

theorem AreRuns.nil : AreRuns [] :=
  ⟨List.not_mem_nil, List.forall_mem_nil _, .nil⟩

/-- A piece that looks like the first run belongs to it. -/
theorem AreRuns.extend {s x : Span} {run : List Span} {rs : List (List Span)}
    (h : AreRuns ((x :: run) :: rs)) (hlook : s.sameLook x = true) :
    AreRuns ((s :: x :: run) :: rs) := by
  obtain ⟨hne, halike, hapart⟩ := h
  rw [List.forall_mem_cons] at halike
  refine ⟨?_, ?_, ?_⟩
  · simp only [List.mem_cons, not_or] at hne ⊢
    exact ⟨(List.cons_ne_nil _ _).symm, hne.2⟩
  · rw [List.forall_mem_cons]
    exact ⟨.cons_cons hlook halike.1, halike.2⟩
  · -- the last piece of the run is the same as before
    cases hapart with
    | singleton => exact .singleton _
    | cons_cons hfirst hrest =>
      obtain ⟨hl, hh, hdiffer⟩ := hfirst
      exact .cons_cons ⟨List.cons_ne_nil _ _, hh, hdiffer⟩ hrest

/-- A piece that looks different is a run of its own. -/
theorem AreRuns.begin {s x : Span} {run : List Span} {rs : List (List Span)}
    (h : AreRuns ((x :: run) :: rs)) (hlook : s.sameLook x = false) :
    AreRuns ([s] :: (x :: run) :: rs) := by
  obtain ⟨hne, halike, hapart⟩ := h
  refine ⟨?_, ?_, ?_⟩
  · rw [List.mem_cons, not_or]
    exact ⟨(List.cons_ne_nil _ _).symm, hne⟩
  · rw [List.forall_mem_cons]
    exact ⟨.singleton s, halike⟩
  · exact .cons_cons ⟨List.cons_ne_nil _ _, List.cons_ne_nil _ _, hlook⟩ hapart

theorem merge_filter : ∀ pieces : List Span,
    merge (pieces.filter fun s => !s.text.isEmpty) = merge pieces
  | [] => rfl
  | s :: pieces => by
    have ih := merge_filter pieces
    by_cases hempty : s.text.isEmpty = true
    · rw [List.filter_cons_of_neg (by simp [hempty]), ih, merge, if_pos hempty]
    · rw [List.filter_cons_of_pos (by simp [hempty]), merge, if_neg hempty, ih, merge,
        if_neg hempty]

/-- A piece in front of runs goes on with the first of them or begins one. -/
theorem AreRuns.exists_cons {rs : List (List Span)} (h : AreRuns rs) (s : Span) :
    ∃ rs', rs'.flatten = s :: rs.flatten ∧ AreRuns rs' ∧
      s.absorb (rs.map joined) = rs'.map joined := by
  rcases rs with - | ⟨- | ⟨x, run⟩, rs⟩
  · refine ⟨[[s]], rfl, ⟨by simp, by simp, .singleton _⟩, ?_⟩
    rw [List.map_singleton, joined_cons]
    simp [absorb, plainText]
  · exact absurd List.mem_cons_self h.ne_nil
  · by_cases hlook : s.sameLook x = true
    · refine ⟨(s :: x :: run) :: rs, rfl, h.extend hlook, ?_⟩
      rw [List.map_cons, joined_cons, absorb, if_pos (sameLook_iff.mp hlook), List.map_cons,
        joined_cons, plainText_cons]
    · refine ⟨[s] :: (x :: run) :: rs, rfl, h.begin (Bool.eq_false_iff.mpr hlook), ?_⟩
      rw [List.map_cons, joined_cons, absorb, if_neg fun hsame => hlook (sameLook_iff.mpr hsame),
        List.map_cons, List.map_cons, joined_cons, joined_cons]
      simp [plainText]

/-- Pieces that have text fall into runs, and merging joins these. -/
theorem exists_runs : ∀ {pieces : List Span}, (∀ s ∈ pieces, s.text.isEmpty = false) →
    ∃ rs, rs.flatten = pieces ∧ AreRuns rs ∧ merge pieces = rs.map joined
  | [], _ => ⟨[], rfl, .nil, rfl⟩
  | s :: pieces, h => by
    rw [List.forall_mem_cons] at h
    obtain ⟨rs, hflatten, hruns, hmerge⟩ := exists_runs h.2
    obtain ⟨rs', hflatten', hruns', habsorb⟩ := hruns.exists_cons s
    refine ⟨rs', by rw [hflatten', hflatten], hruns', ?_⟩
    rw [merge, if_neg (by simp [h.1]), hmerge, habsorb]

/-- **Merging joins the maximal runs.** -/
theorem merge_eq_map_joined (pieces : List Span) : merge pieces = (runs pieces).map joined := by
  have htext : ∀ s ∈ pieces.filter fun s => !s.text.isEmpty, s.text.isEmpty = false := by
    intro s hs
    simpa using (List.mem_filter.mp hs).2
  obtain ⟨rs, hflatten, hruns, hmerge⟩ := exists_runs htext
  -- there is one way only to fall into runs
  have hsplit : runs pieces = rs := by
    rw [runs, ← hflatten]
    exact List.splitBy_flatten hruns.ne_nil hruns.alike hruns.apart
  rw [hsplit, ← hmerge, merge_filter]

theorem mem_absorb {s x : Span} {l : List Span} (h : x ∈ s.absorb l) :
    x ∈ l ∨ ∃ rest, x.text = s.text ++ rest := by
  cases l with
  | nil =>
    rw [absorb, List.mem_singleton] at h
    exact .inr ⟨"", by rw [h, String.append_empty]⟩
  | cons y l =>
    rw [absorb] at h
    split at h
    · rcases List.mem_cons.mp h with rfl | h
      · exact .inr ⟨y.text, rfl⟩
      · exact .inl (List.mem_cons_of_mem y h)
    · rcases List.mem_cons.mp h with rfl | h
      · exact .inr ⟨"", by rw [String.append_empty]⟩
      · exact .inl h

/-- No merged span is empty. -/
theorem text_ne_of_mem_merge : ∀ {pieces : List Span}, ∀ s ∈ merge pieces, s.text ≠ ""
  | [], _, h => by simp [merge] at h
  | p :: pieces, s, h => by
    rw [merge] at h
    split at h
    · exact text_ne_of_mem_merge s h
    · next hempty =>
      rcases mem_absorb h with h | ⟨rest, hrest⟩
      · exact text_ne_of_mem_merge s h
      · intro hnil
        rw [hnil] at hrest
        refine hempty (String.isEmpty_iff.mpr ?_)
        exact (String.append_eq_empty_iff.mp hrest.symm).1

/-- Whether two neighbours differ in style or link. -/
def Apart (s s' : Span) : Prop :=
  ¬(s.style = s'.style ∧ s.link = s'.link)

theorem isChain_absorb (s : Span) {l : List Span} (h : l.IsChain Apart) :
    (s.absorb l).IsChain Apart := by
  cases l with
  | nil => exact .singleton s
  | cons x l =>
    rw [absorb]
    split
    · next hsame =>
      -- the span in front of the rest looks as it did
      cases h with
      | singleton => exact .singleton _
      | cons_cons hx hl =>
        refine .cons_cons ?_ hl
        rw [Apart, hsame.1, hsame.2]
        exact hx
    · next hsame => exact .cons_cons hsame h

/-- Merged spans differ from their neighbours. -/
theorem isChain_merge : ∀ pieces : List Span, (merge pieces).IsChain Apart
  | [] => .nil
  | p :: pieces => by
    have ih := isChain_merge pieces
    rw [merge]
    split
    · exact ih
    · exact isChain_absorb p ih

end Span

/-! ## Blocks among inline content -/

namespace Document

/-- Whether a block is met on the way down from a node through inline containers. -/
inductive Meets (doc : Document) : NodeId → NodeId → Prop
  | self {block : NodeId} : (doc.kind block).isBlock = true → Meets doc block block
  | inside {id child block : NodeId} {i : Inline} : doc.kind id = .inline i →
      i.isContainer = true → child ∈ doc.children id → Meets doc child block → Meets doc id block

/-- The blocks that are met on the way down from a node, in order. Nesting deeper than `bound` is
left out. -/
def metBlocks (doc : Document) : Nat → NodeId → List NodeId
  | 0, _ => []
  | bound + 1, id =>
    match doc.kind id with
    | .block _ => [id]
    | .inline i => if i.isContainer then (doc.children id).flatMap (doc.metBlocks bound) else []

variable {doc : Document}

open SpanCollector

/-- What is left out one after the other. -/
theorem skipped_foldl {f : SpanCollector → NodeId → SpanCollector} {g : NodeId → List NodeId}
    (h : ∀ c id, (f c id).skipped = (g id).reverse ++ c.skipped) :
    ∀ (ids : List NodeId) (c : SpanCollector),
      (ids.foldl f c).skipped = (ids.flatMap g).reverse ++ c.skipped
  | [], _ => rfl
  | id :: ids, c => by
    rw [List.foldl_cons, skipped_foldl h ids, h, List.flatMap_cons, List.reverse_append,
      List.append_assoc]

/-- What a collector leaves out are the blocks that are met. -/
theorem skipped_visit : ∀ (bound : Nat) (style : Style) (link : Option String) (c : SpanCollector)
    (id : NodeId),
    (visit doc bound style link c id).skipped = (doc.metBlocks bound id).reverse ++ c.skipped
  | 0, _, _, _, _ => rfl
  | bound + 1, style, link, c, id => by
    rw [visit, metBlocks]
    cases doc.kind id with
    | block b => rfl
    | inline i =>
      dsimp only
      rw [← isSome_enter style link i]
      cases enter style link i with
      | none => exact skipped_push c _ _ _
      | some inner =>
        obtain ⟨style', link'⟩ := inner
        exact skipped_foldl (skipped_visit bound style' link') (doc.children id) c

/-- **The blocks that are left out are those that are met.** -/
theorem Holds.skippedBlocks_eq {id : NodeId} {t : Tree} (h : doc.Holds id t) :
    doc.skippedBlocks id = (doc.children id).flatMap (doc.metBlocks doc.size) := by
  have hvisit : ∀ (c : SpanCollector) (child : NodeId),
      (visit doc doc.size {} none c child).skipped =
        (doc.metBlocks doc.size child).reverse ++ c.skipped := skipped_visit doc.size {} none
  have hfold := skipped_foldl hvisit (doc.children id) {}
  rw [skippedBlocks, h.collect_eq_foldl_visit, hfold, List.append_nil, List.reverse_reverse]

theorem metBlocks_staysBelow : ∀ bound : Nat, doc.StaysBelow (doc.metBlocks bound)
  | 0 => fun _ _ _ _ _ => .nil
  | bound + 1 => by
    intro parent next id t h
    rw [metBlocks]
    cases doc.kind id with
    | block b => exact InStretch.nil.cons (Nat.lt_add_of_pos_right t.size_pos)
    | inline i =>
      dsimp only
      split
      · exact (metBlocks_staysBelow bound).children h
      · exact .nil

/-- Where the bound is enough for the nesting, every block is seen. -/
theorem Holds.mem_metBlocks_iff {block : NodeId} : ∀ {bound : Nat} {id : NodeId} {t : Tree},
    doc.Holds id t → t.height < bound → (block ∈ doc.metBlocks bound id ↔ doc.Meets id block)
  | 0, _, _, _, hb => by omega
  | bound + 1, id, .node k cs, h, hb => by
    have hchildren : ∀ c ∈ doc.children id,
        (block ∈ doc.metBlocks bound c ↔ doc.Meets c block) := by
      intro c hc
      obtain ⟨u, hu, hcu⟩ := h.exists_child hc
      have hlt : u.height < Tree.heights cs := Tree.height_lt_heights hu
      rw [Tree.height] at hb
      exact hcu.mem_metBlocks_iff (by omega)
    rw [metBlocks]
    constructor
    · intro hmem
      cases hk : doc.kind id with
      | block b =>
        rw [hk, List.mem_singleton] at hmem
        rw [hmem]
        exact .self (by rw [hk]; rfl)
      | inline i =>
        simp only [hk] at hmem
        by_cases hi : i.isContainer = true
        · rw [if_pos hi] at hmem
          obtain ⟨c, hc, hmem⟩ := List.mem_flatMap.mp hmem
          exact .inside hk hi hc ((hchildren c hc).mp hmem)
        · rw [if_neg hi] at hmem
          cases hmem
    · intro hmeets
      cases hmeets with
      | self hblock =>
        cases hk : doc.kind block with
        | block b => exact List.mem_singleton.mpr rfl
        | inline i =>
          rw [hk] at hblock
          cases hblock
      | inside hk hi hc hmeets =>
        simp only [hk, if_pos hi]
        exact List.mem_flatMap.mpr ⟨_, hc, (hchildren _ hc).mpr hmeets⟩

/-- From any node of the document of a tree, blocks are met in document order. -/
theorem pairwise_skippedBlocks (t : Tree) (id : NodeId) :
    (t.document.skippedBlocks id).Pairwise (· < ·) := by
  rw [(t.holds_subtree id).skippedBlocks_eq]
  exact (metBlocks_staysBelow _).pairwise_flatMap_children id

/-- The blocks that are left out are those that are met below the children. -/
theorem Holds.mem_skippedBlocks_iff {id block : NodeId} {t : Tree} (h : doc.Holds id t) :
    block ∈ doc.skippedBlocks id ↔ ∃ child ∈ doc.children id, doc.Meets child block := by
  have hchildren : ∀ c ∈ doc.children id,
      (block ∈ doc.metBlocks doc.size c ↔ doc.Meets c block) := by
    intro c hc
    obtain ⟨u, hu, hcu⟩ := h.exists_child hc
    obtain ⟨k, cs⟩ := t
    have hlt : u.height < Tree.heights cs := Tree.height_lt_heights hu
    have hle : Tree.heights cs ≤ doc.size := h.height_le
    exact hcu.mem_metBlocks_iff (by omega)
  rw [h.skippedBlocks_eq, List.mem_flatMap]
  exact exists_congr fun c => and_congr_right (hchildren c)

end Document

/-- **The spans of a node.** They are the maximal runs of fragments below it that look the same,
without those that have no text. No span is empty, neighbours differ in style or link, and the plain
text is that of the fragments. The log names the blocks that are met among the inline content, each
of them once, in document order. -/
theorem spans_eq_joined_runs (operations : List Builder.Operation) (id : NodeId) :
    let doc := (Builder.run operations).document
    let pieces := (Tree.fragmentsAll [] (doc.subtree id).children).map Fragment.span
    doc.spans id = (Span.runs pieces).map Span.joined ∧
      (∀ s ∈ doc.spans id, s.text ≠ "") ∧
      (doc.spans id).IsChain (fun s s' => ¬(s.style = s'.style ∧ s.link = s'.link)) ∧
      Span.plainText (doc.spans id) = Span.plainText pieces ∧
      ∃ blocks : List NodeId, blocks.Pairwise (· < ·) ∧
        (∀ block, block ∈ blocks ↔ ∃ child ∈ doc.children id, doc.Meets child block) ∧
        doc.spanEvents id = blocks.map fun block =>
          ⟨.debug, "Skipping block node inside inline content",
            [LogEvent.node block, ("block", (doc.kind block).name)]⟩ := by
  intro doc pieces
  have htree : doc = doc.tree.document := Builder.document_run operations
  have hholds : doc.Holds id (doc.subtree id) := by
    have h := doc.tree.holds_subtree id
    rwa [← htree] at h
  have hmerge : doc.spans id = Span.merge pieces := by
    rw [hholds.spans_eq, Tree.spans_eq_merge]
  have hpairwise : (doc.skippedBlocks id).Pairwise (· < ·) := by
    have h := Document.pairwise_skippedBlocks doc.tree id
    rwa [← htree] at h
  refine ⟨?_, ?_, ?_, ?_, doc.skippedBlocks id, hpairwise, ?_, rfl⟩
  · rw [hmerge, Span.merge_eq_map_joined]
  · rw [hmerge]
    exact Span.text_ne_of_mem_merge
  · rw [hmerge]
    exact Span.isChain_merge pieces
  · rw [hmerge, Span.plainText_merge]
  · exact fun block => hholds.mem_skippedBlocks_iff

/-- A link in strong text, with a block behind it and an empty text. The runs on both sides of what
shows nothing are one. -/
example :
    let doc := (((((((Builder.new.openNode (.block (.paragraph false))).openNode
      (.inline .strong)).leaf (.inline (.text "a"))).leaf (.block .thematicBreak)).openNode
      (.inline (.link "/u" ""))).leaf (.inline (.text ""))).close.leaf
      (.inline (.text "b"))).document
    doc.spans 1 = [⟨"ab", { strong := true }, none⟩] ∧ doc.skippedBlocks 1 = [4] := by
  decide +kernel

end MarkdownTree
