import MarkdownTree.Proofs.Tree.Arena
import MarkdownTree.Span

/-!
# Spans of a tree

The collector walks the inline content of a node with a stack, and merges spans as it goes. A tree
of the content is walked on top of whatever is on the stack, so the walk is a recursion on the
nesting. Seen on the tree this is two functions, one after the other.

* `SpanCollector.visit` — the recursion.
* `Shows.walk_eq`, `ShowsAll.walk_eq` — the walk through a tree, and through what a container on the
  stack has left, does what the recursion does.
* `Tree.flatten` — one piece of text for every inline leaf, with the style and the link around it.
* `Span.merge` — the pieces without the empty ones, neighbours of equal style and link being one.
* `Holds.spans_eq` — the spans of a node are the merged pieces below it.
-/

namespace MarkdownTree

namespace Span

/-- Puts a span in front of merged spans. -/
def absorb (s : Span) : List Span → List Span
  | [] => [s]
  | x :: l =>
    if s.style = x.style ∧ s.link = x.link then { s with text := s.text ++ x.text } :: l
    else s :: x :: l

/-- Drops empty pieces and joins neighbours of equal style and link. -/
def merge : List Span → List Span
  | [] => []
  | s :: l => if s.text.isEmpty then merge l else s.absorb (merge l)

/-- A piece that goes on with a span may be joined with it first. -/
theorem absorb_absorb {s p : Span} (h : s.style = p.style ∧ s.link = p.link) (l : List Span) :
    s.absorb (p.absorb l) = absorb { s with text := s.text ++ p.text } l := by
  cases l with
  | nil => simp only [absorb, if_pos h]
  | cons x l =>
    by_cases hx : p.style = x.style ∧ p.link = x.link
    · have hsx : s.style = x.style ∧ s.link = x.link := ⟨h.1.trans hx.1, h.2.trans hx.2⟩
      simp only [absorb, if_pos hx, if_pos h, if_pos hsx, String.append_assoc]
    · have hsx : ¬(s.style = x.style ∧ s.link = x.link) := by rwa [h.1, h.2]
      simp only [absorb, if_neg hx, if_pos h, if_neg hsx]

/-- A piece that differs from a span begins a new one. -/
theorem absorb_of_ne {s p : Span} (h : ¬(s.style = p.style ∧ s.link = p.link)) (l : List Span) :
    s.absorb (p.absorb l) = s :: p.absorb l := by
  cases l with
  | nil => simp only [absorb, if_neg h]
  | cons x l =>
    by_cases hx : p.style = x.style ∧ p.link = x.link
    · simp only [absorb, if_pos hx, if_neg h]
    · simp only [absorb, if_neg hx, if_neg h]

theorem plainText_cons (s : Span) (l : List Span) :
    plainText (s :: l) = s.text ++ plainText l := by
  simp [plainText]

theorem plainText_append (l m : List Span) :
    plainText (l ++ m) = plainText l ++ plainText m := by
  simp [plainText]

theorem plainText_absorb (s : Span) (l : List Span) :
    plainText (s.absorb l) = s.text ++ plainText l := by
  cases l with
  | nil => rw [absorb, plainText_cons]
  | cons x l =>
    rw [absorb]
    split
    · rw [plainText_cons, plainText_cons, String.append_assoc]
    · rw [plainText_cons]

/-- **Merging keeps the text.** -/
theorem plainText_merge : ∀ l : List Span, plainText (merge l) = plainText l
  | [] => rfl
  | s :: l => by
    rw [merge, plainText_cons]
    split
    · next h => rw [plainText_merge l, String.isEmpty_iff.mp h, String.empty_append]
    · rw [plainText_absorb, plainText_merge l]

end Span

namespace Tree

mutual

/-- The pieces of text of an inline tree below some style and link. Blocks have none. -/
def flatten (style : Style) (link : Option String) : Tree → List Span
  | node (.block _) _ => []
  | node (.inline i) cs =>
    match SpanCollector.enter style link i with
    | some (style, link) => flattenAll style link cs
    | none => [⟨(SpanCollector.leafText style i).1, (SpanCollector.leafText style i).2, link⟩]

/-- The pieces of text of some trees in order. -/
def flattenAll (style : Style) (link : Option String) : List Tree → List Span
  | [] => []
  | t :: ts => t.flatten style link ++ flattenAll style link ts

end

mutual

/-- Whether no block is in a tree. -/
def isInline : Tree → Bool
  | node (.block _) _ => false
  | node (.inline _) cs => allInline cs

/-- Whether no block is in some trees. -/
def allInline : List Tree → Bool
  | [] => true
  | t :: ts => t.isInline && allInline ts

end

/-- The spans of the inline content of a tree. -/
def spans (t : Tree) : List Span :=
  Span.merge (flattenAll {} none t.children)

end Tree

namespace SpanCollector

/-- Adds pieces of text to a collector. -/
def pushAll (c : SpanCollector) (pieces : List Span) : SpanCollector :=
  pieces.foldl (fun c s => c.push s.text s.style s.link) c

/-- A collector that has spans merges the next pieces into the last of them. -/
theorem spans_pushAll_cons : ∀ (pieces : List Span) (s : Span) (older : List Span)
    (skipped : List NodeId),
    (pushAll ⟨s :: older, skipped⟩ pieces).spans.reverse =
      older.reverse ++ s.absorb (Span.merge pieces)
  | [], s, older, skipped => by simp [pushAll, Span.merge, Span.absorb]
  | p :: pieces, s, older, skipped => by
    have ih := spans_pushAll_cons pieces
    rw [pushAll, List.foldl_cons, push, Span.merge]
    by_cases hempty : p.text.isEmpty = true
    · rw [if_pos hempty, if_pos hempty]
      exact ih s older skipped
    rw [if_neg hempty, if_neg hempty]
    by_cases hsame : s.style = p.style ∧ s.link = p.link
    · -- the piece goes on with the last span
      simp only [if_pos hsame]
      rw [← pushAll, ih, Span.absorb_absorb hsame]
    · -- the piece begins a span
      simp only [if_neg hsame]
      rw [← pushAll, ih, Span.absorb_of_ne hsame, List.reverse_cons, List.append_assoc,
        List.singleton_append]

/-- **A fresh collector merges the pieces that it is given.** -/
theorem spans_pushAll_nil (skipped : List NodeId) : ∀ pieces : List Span,
    (pushAll ⟨[], skipped⟩ pieces).spans.reverse = Span.merge pieces
  | [] => rfl
  | p :: pieces => by
    rw [pushAll, List.foldl_cons, push, Span.merge]
    by_cases hempty : p.text.isEmpty = true
    · rw [if_pos hempty, if_pos hempty]
      exact spans_pushAll_nil skipped pieces
    · rw [if_neg hempty, if_neg hempty]
      exact spans_pushAll_cons pieces p [] skipped

theorem pushAll_append (c : SpanCollector) (pieces pieces' : List Span) :
    c.pushAll (pieces ++ pieces') = (c.pushAll pieces).pushAll pieces' :=
  List.foldl_append

theorem skipped_push (c : SpanCollector) (text : String) (style : Style) (link : Option String) :
    (c.push text style link).skipped = c.skipped := by
  unfold push
  split
  · rfl
  · split
    · split <;> rfl
    · rfl

@[simp] theorem skipped_pushAll : ∀ (pieces : List Span) (c : SpanCollector),
    (c.pushAll pieces).skipped = c.skipped
  | [], _ => rfl
  | p :: pieces, c => by
    rw [pushAll, List.foldl_cons, ← pushAll, skipped_pushAll pieces, skipped_push]

/-- Notes blocks that were left out, newest first. -/
def skipAll (c : SpanCollector) (ids : List NodeId) : SpanCollector :=
  { c with skipped := ids ++ c.skipped }

@[simp] theorem skipAll_nil (c : SpanCollector) : c.skipAll [] = c := rfl

theorem skipAll_skipAll (c : SpanCollector) (ids ids' : List NodeId) :
    (c.skipAll ids).skipAll ids' = c.skipAll (ids' ++ ids) := by
  simp [skipAll]

theorem push_skipAll (c : SpanCollector) (ids : List NodeId) (text : String) (style : Style)
    (link : Option String) :
    (c.skipAll ids).push text style link = (c.push text style link).skipAll ids := by
  obtain ⟨spans, skipped⟩ := c
  unfold push
  split
  · rfl
  · cases spans with
    | nil => rfl
    | cons last spans =>
      simp only [skipAll]
      split <;> rfl

/-- What is left out does not change the pieces of text. -/
theorem pushAll_skipAll (ids : List NodeId) : ∀ (pieces : List Span) (c : SpanCollector),
    (c.skipAll ids).pushAll pieces = (c.pushAll pieces).skipAll ids
  | [], _ => rfl
  | p :: pieces, c => by
    have ih := pushAll_skipAll ids pieces (c.push p.text p.style p.link)
    simp only [pushAll, List.foldl_cons] at ih ⊢
    rw [push_skipAll, ih]

end SpanCollector

/-! ## The walk -/

namespace SpanCollector

/-- Collects a node and, for a container, what is below it. Nesting deeper than `depth` is left
out. -/
def visit (doc : Document) : Nat → Style → Option String → SpanCollector → NodeId → SpanCollector
  | 0, _, _, c, _ => c
  | depth + 1, style, link, c, id =>
    match doc.kind id with
    | .block _ => c.skip id
    | .inline i =>
      match enter style link i with
      | some (style, link) => (doc.children id).foldl (visit doc depth style link) c
      | none =>
        let (text, style) := leafText style i
        c.push text style link

theorem walk_cons (doc : Document) (bound : Nat) (c : SpanCollector) (frame : SpanFrame)
    (stack : List SpanFrame) :
    SpanCollector.walk doc (bound + 1) c (frame :: stack) =
      SpanCollector.walk doc bound (step doc c frame stack).1 (step doc c frame stack).2 := rfl

section

variable {doc : Document} {id : NodeId} (c : SpanCollector) (style : Style) (link : Option String)
  (stack : List SpanFrame)

/-- A block is left out. -/
theorem step_block {b : Block} (h : doc.kind id = .block b) :
    step doc c ⟨some id, style, link⟩ stack =
      (c.skip id, ⟨doc.nextSibling? id, style, link⟩ :: stack) := by
  simp only [step, h]

/-- A leaf adds its text. -/
theorem step_leaf {i : Inline} (h : doc.kind id = .inline i) (hi : enter style link i = none) :
    step doc c ⟨some id, style, link⟩ stack =
      (c.push (leafText style i).1 (leafText style i).2 link,
        ⟨doc.nextSibling? id, style, link⟩ :: stack) := by
  simp only [step, h, hi]

/-- A container goes on the stack, in front of its next sibling. -/
theorem step_container {i : Inline} (h : doc.kind id = .inline i) {style' : Style}
    {link' : Option String} (hi : enter style link i = some (style', link')) :
    step doc c ⟨some id, style, link⟩ stack =
      (c, ⟨doc.firstChild? id, style', link'⟩ :: ⟨doc.nextSibling? id, style, link⟩ :: stack) := by
  simp only [step, h, hi]

end

/-- The collector goes on below containers only. -/
theorem isSome_enter (style : Style) (link : Option String) (i : Inline) :
    (enter style link i).isSome = i.isContainer := by
  cases i <;> rfl

end SpanCollector

namespace Tree

mutual

/-- The steps that a walk takes for a tree. Those of a container include the end of its content. -/
def walkSteps : Tree → Nat
  | node (.block _) _ => 1
  | node (.inline i) cs => if i.isContainer then walkStepsAll cs + 2 else 1

/-- The steps that a walk takes for some trees. -/
def walkStepsAll : List Tree → Nat
  | [] => 0
  | t :: ts => t.walkSteps + walkStepsAll ts

end

mutual

theorem walkSteps_le : ∀ t : Tree, t.walkSteps ≤ 2 * t.size
  | node (.block b) cs => by
    rw [walkSteps, size]
    omega
  | node (.inline i) cs => by
    have := walkStepsAll_le cs
    rw [walkSteps, size]
    split <;> omega

theorem walkStepsAll_le : ∀ ts : List Tree, walkStepsAll ts ≤ 2 * sizes ts
  | [] => Nat.le_refl 0
  | t :: ts => by
    have := walkSteps_le t
    have := walkStepsAll_le ts
    rw [walkStepsAll, sizes]
    omega

end

end Tree

namespace Document

open SpanCollector

-- By recursion on the tree, with whatever is on the stack below. A container that was put on the
-- stack is taken off again when its content is complete.
mutual

theorem Shows.walk_eq {doc : Document} : ∀ {t : Tree} {id : NodeId} {depth : Nat} (bound : Nat)
    (c : SpanCollector) (style : Style) (link : Option String) (stack : List SpanFrame),
      doc.Shows id t → t.height < depth →
      SpanCollector.walk doc (t.walkSteps + bound) c (⟨some id, style, link⟩ :: stack) =
        SpanCollector.walk doc bound (visit doc depth style link c id)
          (⟨doc.nextSibling? id, style, link⟩ :: stack)
  | t, id, 0, _, _, _, _, _, _, hd => by omega
  | .node (.block b) cs, id, depth + 1, bound, c, style, link, stack, h, _ => by
    rw [Tree.walkSteps, Nat.add_comm 1 bound, walk_cons, step_block c style link stack h.1, visit,
      h.1]
  | .node (.inline i) cs, id, depth + 1, bound, c, style, link, stack, h, hd => by
    obtain ⟨hkind, hlinked, hshows⟩ := h
    rw [Tree.walkSteps, ← isSome_enter style link i]
    cases henter : enter style link i with
    | none =>
      rw [Option.isSome_none, if_neg (by simp), Nat.add_comm 1 bound, walk_cons,
        step_leaf c style link stack hkind henter, visit]
      simp only [hkind, henter]
    | some inner =>
      obtain ⟨style', link'⟩ := inner
      have hbound : Tree.walkStepsAll cs + 2 + bound = Tree.walkStepsAll cs + 1 + bound + 1 := by
        omega
      rw [Tree.height] at hd
      have hcontent := ShowsAll.walk_eq bound c style' link'
        (⟨doc.nextSibling? id, style, link⟩ :: stack) hlinked hshows (Nat.le_of_lt_succ hd)
      rw [Option.isSome_some, if_pos rfl, hbound, walk_cons,
        step_container c style link stack hkind henter, hcontent, visit]
      simp only [hkind, henter]

/-- **What a container on the stack has left is collected**, and then the container is taken off. -/
theorem ShowsAll.walk_eq {doc : Document} : ∀ {ts : List Tree} {ids : List NodeId}
    {next : Option NodeId} {depth : Nat} (bound : Nat) (c : SpanCollector) (style : Style)
    (link : Option String) (stack : List SpanFrame), Linked doc.nextSibling? next ids →
      doc.ShowsAll ids ts → Tree.heights ts ≤ depth →
      SpanCollector.walk doc (Tree.walkStepsAll ts + 1 + bound) c (⟨next, style, link⟩ :: stack) =
        SpanCollector.walk doc bound (ids.foldl (visit doc depth style link) c) stack
  | [], [], _, _, bound, c, style, link, stack, .nil, _, _ => by
    rw [Tree.walkStepsAll, Nat.zero_add, Nat.add_comm 1 bound, walk_cons]
    rfl
  | [], _ :: _, _, _, _, _, _, _, _, _, h, _ => by simp [ShowsAll] at h
  | _ :: _, [], _, _, _, _, _, _, _, _, h, _ => by simp [ShowsAll] at h
  | t :: ts, id :: ids, _, depth, bound, c, style, link, stack, .cons hlinked, h, hd => by
    have hbound : Tree.walkStepsAll (t :: ts) + 1 + bound =
        t.walkSteps + (Tree.walkStepsAll ts + 1 + bound) := by
      rw [Tree.walkStepsAll]
      omega
    rw [Tree.heights] at hd
    have hfits : t.height < depth ∧ Tree.heights ts ≤ depth := by omega
    rw [hbound, Shows.walk_eq _ c style link stack h.1 hfits.1,
      ShowsAll.walk_eq bound _ style link stack hlinked h.2 hfits.2]
    rfl

end

/-- **The walk collects what the recursion does.** The number of nodes is bound enough for both. -/
theorem Holds.collect_eq_foldl_visit {doc : Document} {id : NodeId} {t : Tree}
    (h : doc.Holds id t) :
    collect doc id = (doc.children id).foldl (visit doc doc.size {} none) {} := by
  obtain ⟨k, cs⟩ := t
  obtain ⟨-, hlinked, hshows⟩ := h.shows
  have hsteps := Tree.walkStepsAll_le cs
  have hsize := h.size_le
  rw [Tree.size] at hsize
  obtain ⟨rest, hrest⟩ : ∃ rest, 2 * doc.size = Tree.walkStepsAll cs + 1 + rest :=
    ⟨2 * doc.size - (Tree.walkStepsAll cs + 1), by omega⟩
  rw [collect, hrest, hshows.walk_eq rest {} {} none [] hlinked h.height_le]
  cases rest <;> rfl

/-! ## Spans of a document -/

mutual

/-- Visiting a node pushes the pieces of its tree. What is left out are blocks, so nothing is if
there are none. -/
theorem Shows.visit_eq {doc : Document} :
    ∀ {t : Tree} {id : NodeId} {bound : Nat} (style : Style) (link : Option String)
      (c : SpanCollector), doc.Shows id t → t.height < bound →
      ∃ ids, visit doc bound style link c id = (c.pushAll (t.flatten style link)).skipAll ids ∧
        (t.isInline = true → ids = [])
  | t, id, 0, _, _, _, _, hb => by omega
  | .node (.block b) cs, id, bound + 1, style, link, c, h, hb => by
    refine ⟨[id], ?_, fun hi => absurd hi (by simp [Tree.isInline])⟩
    rw [visit, h.1, Tree.flatten]
    rfl
  | .node (.inline i) cs, id, bound + 1, style, link, c, h, hb => by
    rw [visit, h.1, Tree.flatten, Tree.isInline]
    cases henter : enter style link i with
    | none =>
      -- a leaf is one piece, and what may be below it is not visited
      exact ⟨[], by simp [henter, pushAll], fun _ => rfl⟩
    | some inner =>
      obtain ⟨style', link'⟩ := inner
      simp only [henter]
      rw [Tree.height] at hb
      exact ShowsAll.foldl_visit_eq style' link' c h.2.2 (by omega)

theorem ShowsAll.foldl_visit_eq {doc : Document} :
    ∀ {ts : List Tree} {ids : List NodeId} {bound : Nat} (style : Style) (link : Option String)
      (c : SpanCollector), doc.ShowsAll ids ts → Tree.heights ts ≤ bound →
      ∃ skipped, ids.foldl (visit doc bound style link) c =
          (c.pushAll (Tree.flattenAll style link ts)).skipAll skipped ∧
        (Tree.allInline ts = true → skipped = [])
  | [], [], _, _, _, c, _, _ => ⟨[], rfl, fun _ => rfl⟩
  | [], _ :: _, _, _, _, _, h, _ => by simp [ShowsAll] at h
  | _ :: _, [], _, _, _, _, h, _ => by simp [ShowsAll] at h
  | t :: ts, id :: ids, bound, style, link, c, h, hb => by
    rw [Tree.heights] at hb
    have hfits : t.height < bound ∧ Tree.heights ts ≤ bound := by omega
    obtain ⟨first, hfirst, hnone⟩ := Shows.visit_eq style link c h.1 hfits.1
    obtain ⟨rest, hrest, hnone'⟩ := ShowsAll.foldl_visit_eq style link
      ((c.pushAll (t.flatten style link)).skipAll first) h.2 hfits.2
    refine ⟨rest ++ first, ?_, ?_⟩
    · rw [List.foldl_cons, hfirst, hrest, pushAll_skipAll, skipAll_skipAll, Tree.flattenAll,
        pushAll_append]
    · rw [Tree.allInline, Bool.and_eq_true]
      exact fun hi => by rw [hnone hi.1, hnone' hi.2, List.append_nil]

end

variable {doc : Document} {id : NodeId} {t : Tree}

/-- What is collected below a node, and what is left out. -/
theorem Holds.collect_eq (h : doc.Holds id t) :
    ∃ ids, collect doc id = (pushAll {} (Tree.flattenAll {} none t.children)).skipAll ids ∧
      (Tree.allInline t.children = true → ids = []) := by
  rw [h.collect_eq_foldl_visit]
  obtain ⟨k, cs⟩ := t
  exact ShowsAll.foldl_visit_eq {} none {} h.shows.2.2 h.height_le

/-- **The spans of a node are the merged pieces below it.** -/
theorem Holds.spans_eq (h : doc.Holds id t) : doc.spans id = t.spans := by
  obtain ⟨ids, hcollect, -⟩ := h.collect_eq
  rw [Document.spans, hcollect]
  exact spans_pushAll_nil [] _

/-- Inline content without blocks is collected completely. -/
theorem Holds.skippedBlocks_eq_nil (h : doc.Holds id t)
    (hinline : Tree.allInline t.children = true) : doc.skippedBlocks id = [] := by
  obtain ⟨ids, hcollect, hids⟩ := h.collect_eq
  rw [skippedBlocks, hcollect, hids hinline, skipAll_nil, skipped_pushAll]
  rfl

end Document

end MarkdownTree
