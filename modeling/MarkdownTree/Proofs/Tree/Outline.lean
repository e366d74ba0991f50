import MarkdownTree.Document.Outline
import MarkdownTree.Proofs.Text.Lines
import MarkdownTree.Proofs.Tree.Order

/-!
# Outlines in document order

The walk of an outline keeps chains of siblings on a stack. In the document of a tree it goes through
the stretch of numbers of each tree in turn, and while it is below a node the stack is as high as
this node has ancestors.

* `Document.ancestors` — the nodes above a node, up to the root.
* `PlacedAll.walk_eq` — the walk through the stretches of sibling trees.
* `Tree.preorder_document` — so the walk visits every node once, in creation order, with the number
  of its ancestors.
* `dump_in_document_order` — the outline has one entry for each node in this order.
* `NodeKind.unquoted`, `count_newline_describe` — the texts that a description shows as they are, and
  the line feeds it gets from them.
* `dump_line_feeds` — so these texts decide whether the outline has one line for each node.
-/

namespace MarkdownTree

namespace Document

/-- The nodes above a node, from its parent upwards, at most `bound` of them. -/
def above (doc : Document) : Nat → NodeId → List NodeId
  | 0, _ => []
  | bound + 1, id =>
    match doc.parent? id with
    | none => []
    | some parent => parent :: doc.above bound parent

/-- The ancestors of a node, from its parent up to the root. -/
def ancestors (doc : Document) (id : NodeId) : List NodeId :=
  doc.above doc.size id

variable {doc : Document}

/-! ## Ancestors -/

theorem Linked.above_eq : ∀ {ids : List NodeId} {id : NodeId} {bound : Nat},
    Linked doc.parent? (doc.parent? id) ids → ids.length ≤ bound → doc.above bound id = ids
  | [], id, bound, h, _ => by
    cases hparent : doc.parent? id with
    | none => cases bound <;> simp [above, hparent]
    | some parent =>
      rw [hparent] at h
      cases h
  | parent :: ids, id, 0, _, hb => by simp at hb
  | parent :: ids, id, bound + 1, h, hb => by
    cases hparent : doc.parent? id with
    | none =>
      rw [hparent] at h
      cases h
    | some p =>
      rw [hparent] at h
      cases h with
      | cons h =>
        have hids := h.above_eq (Nat.le_of_succ_le_succ hb)
        simp only [above, hparent, hids]

namespace Ordered

/-- Parents come first, so a node has no more ancestors than its number says. -/
theorem exists_linked_parents (hdoc : doc.Ordered) (id : NodeId) :
    ∃ ids, Linked doc.parent? (doc.parent? id) ids ∧ ids.length ≤ id := by
  induction id using Nat.strongRecOn with
  | _ id ih =>
    cases hparent : doc.parent? id with
    | none => exact ⟨[], .nil, Nat.zero_le id⟩
    | some parent =>
      have hlt := hdoc.parent_lt id parent hparent
      obtain ⟨ids, hids, hlength⟩ := ih parent hlt
      refine ⟨parent :: ids, .cons hids, ?_⟩
      exact Nat.succ_le_of_lt (Nat.lt_of_le_of_lt hlength hlt)

/-- The ancestors of a node lead up to the root. -/
theorem linked_ancestors (hdoc : doc.Ordered) (id : NodeId) :
    Linked doc.parent? (doc.parent? id) (doc.ancestors id) := by
  obtain ⟨ids, hids, hlength⟩ := hdoc.exists_linked_parents id
  by_cases hid : id < doc.size
  · have hbound : ids.length ≤ doc.size := Nat.le_of_lt (Nat.lt_of_le_of_lt hlength hid)
    have hancestors : doc.ancestors id = ids := hids.above_eq hbound
    rw [hancestors]
    exact hids
  · have hparent : doc.parent? id = none := by
      rw [parent?, get?_eq_none hid]
      rfl
    rw [hparent] at hids ⊢
    have hancestors : doc.ancestors id = [] := by
      cases hsize : doc.size <;> simp [ancestors, above, hparent, hsize]
    rw [hancestors]
    exact .nil

/-- The ancestors of a node are its parent and the ancestors of its parent. -/
theorem ancestors_eq_cons (hdoc : doc.Ordered) {id parent : NodeId}
    (h : doc.parent? id = some parent) : doc.ancestors id = parent :: doc.ancestors parent := by
  have hlinked := hdoc.linked_ancestors id
  rw [h] at hlinked
  exact hlinked.unique (.cons (hdoc.linked_ancestors parent))

/-- The root has no ancestors. -/
theorem ancestors_root (hdoc : doc.Ordered) : doc.ancestors 0 = [] := by
  have hlinked := hdoc.linked_ancestors 0
  rw [((hdoc.parent?_eq_none_iff 0).mpr rfl).2] at hlinked
  exact hlinked.unique .nil

end Ordered

/-! ## The walk -/

/-- What the walk of an outline notes of a node: the number of its ancestors. -/
def outlined (doc : Document) (id : NodeId) : Nat × NodeId :=
  ((doc.ancestors id).length, id)

-- By recursion on the tree, with whatever is on the stack below. The bound goes down by two for
-- each node, by one for the node itself and by one for the end of its children.
mutual

theorem Placed.walk_eq (hdoc : doc.Ordered) : ∀ {t : Tree} {parent : NodeId}
    {next : Option NodeId} {id bound : Nat} {stack : List (Option NodeId)},
    doc.Placed (some parent) next id t → stack.length = (doc.ancestors parent).length →
      Outline.walk doc (2 * t.size + bound) (some id :: stack) =
        (List.range' id t.size).map doc.outlined ++ Outline.walk doc bound (next :: stack)
  | .node k cs, parent, next, id, bound, stack, h, hstack => by
    have hself : doc.outlined id = (stack.length + 1, id) := by
      rw [outlined, hdoc.ancestors_eq_cons h.parent?_eq, List.length_cons, hstack]
    have hbelow : (next :: stack).length = (doc.ancestors id).length := by
      rw [hdoc.ancestors_eq_cons h.parent?_eq, List.length_cons, List.length_cons, hstack]
    have hfirst : doc.firstChild? id = Tree.firstId none (id + 1) cs := h.firstChild?_eq
    have hbound : 2 * (Tree.node k cs).size + bound = 2 * Tree.sizes cs + 1 + bound + 1 := by
      rw [Tree.size]
      omega
    rw [hbound, Outline.walk, hfirst, h.nextSibling?_eq, PlacedAll.walk_eq hdoc h.2 hbelow,
      Tree.size, List.range'_succ, List.map_cons, hself]
    rfl

/-- **The walk through the stretches of sibling trees** visits their nodes in creation order. It
goes on with what is on the stack below. -/
theorem PlacedAll.walk_eq (hdoc : doc.Ordered) : ∀ {ts : List Tree} {parent : NodeId}
    {id bound : Nat} {stack : List (Option NodeId)}, doc.PlacedAll (some parent) id ts →
      stack.length = (doc.ancestors parent).length →
      Outline.walk doc (2 * Tree.sizes ts + 1 + bound) (Tree.firstId none id ts :: stack) =
        (List.range' id (Tree.sizes ts)).map doc.outlined ++ Outline.walk doc bound stack
  | [], _, _, bound, _, _, _ => by
    rw [Tree.sizes, Nat.mul_zero, Nat.zero_add, Nat.add_comm 1 bound]
    rfl
  | t :: ts, parent, id, bound, stack, h, hstack => by
    have hbound : 2 * Tree.sizes (t :: ts) + 1 + bound =
        2 * t.size + (2 * Tree.sizes ts + 1 + bound) := by
      rw [Tree.sizes]
      omega
    rw [hbound, Tree.firstId, Placed.walk_eq hdoc h.1 hstack, PlacedAll.walk_eq hdoc h.2 hstack,
      Tree.sizes, ← List.range'_append_1, List.map_append, List.append_assoc]

end

end Document

/-- **The walk of an outline visits the nodes in creation order**, each with the number of its
ancestors. -/
theorem Tree.preorder_document (t : Tree) :
    t.document.preorder = t.document.iter.map t.document.outlined := by
  have hdoc := t.ordered_document
  have hplaced := t.placed_document
  have hsize : t.document.size = Tree.sizes t.children + 1 := by
    rw [size_document]
    cases t
    rfl
  have hroot : t.document.outlined 0 = (0, 0) := by
    rw [Document.outlined, hdoc.ancestors_root]
    rfl
  have hempty : ([] : List (Option NodeId)).length = (t.document.ancestors 0).length := by
    rw [hdoc.ancestors_root]
    rfl
  have hwalk : Outline.walk t.document (2 * Tree.sizes t.children + 1 + 1) _ = _ :=
    hplaced.placedAll_children.walk_eq hdoc hempty
  rw [Document.preorder, hplaced.firstChild?_eq, Document.iter, hsize, List.range_eq_range',
    List.range'_succ, List.map_cons, hroot, Nat.mul_add]
  exact congrArg ((0, 0) :: ·) (hwalk.trans (List.append_nil _))

/-- The outline of a document puts the lines of its nodes one below the other. -/
theorem Builder.outline_run (operations : List Builder.Operation) :
    let doc := (Builder.run operations).document
    doc.outline = doc.iter.flatMap fun id =>
      Outline.line (doc.ancestors id).length (doc.kind id) := by
  intro doc
  have hpreorder : doc.preorder = doc.iter.map doc.outlined := by
    have htree : doc = doc.tree.document := Builder.document_run operations
    rw [htree]
    exact doc.tree.preorder_document
  rw [Document.outline, hpreorder, List.flatMap_map]
  rfl

/-- **An outline has one entry for each node, in document order.** An entry has two blanks for each
ancestor of its node, 32 of them at most, then the number of ancestors if there are more, and then
the description of the node's kind on the rest of the line. -/
theorem dump_in_document_order (operations : List Builder.Operation) :
    let doc := (Builder.run operations).document
    doc.Traverses (some 0) doc.iter ∧
    (∀ id, Document.Linked doc.parent? (doc.parent? id) (doc.ancestors id)) ∧
    doc.dump = String.ofList (doc.iter.flatMap fun id =>
      let depth := (doc.ancestors id).length
      (List.replicate (min depth 32) [' ', ' ']).flatten ++
        (if 32 < depth then '(' :: (toString depth).toList ++ [')', ' '] else []) ++
        (doc.kind id).describe ++ ['\n']) := by
  intro doc
  have hdoc : doc.Ordered := Builder.ordered_run operations
  refine ⟨hdoc.traverses, hdoc.linked_ancestors, ?_⟩
  have hblanks : ∀ n : Nat,
      (List.replicate n [' ', ' ']).flatten = List.replicate (2 * n) ' ' := by
    intro n
    have h : [' ', ' '] = List.replicate 2 ' ' := rfl
    rw [h, List.flatten_replicate_replicate, Nat.mul_comm]
  simp only [hblanks]
  rw [Document.dump, Builder.outline_run operations]
  rfl

/-! ## Line feeds -/

/-- The texts that the description of a kind shows as they are. All others are quoted. -/
def NodeKind.unquoted : NodeKind → List String
  | .block (.linkReferenceDefinition label destination _) => [label, destination]
  | .block (.footDefinition label) => [label]
  | .block (.footReferenceDefinition label) => [label]
  | .inline (.link destination _) => [destination]
  | .inline (.image destination _) => [destination]
  | .inline (.footnoteReference label) => [label]
  | _ => []

/-- These texts put together. -/
def NodeKind.unquotedText (k : NodeKind) : List Char :=
  k.unquoted.flatMap String.toList

/-- **A description has no other line feeds** than those of the texts it shows as they are. -/
theorem NodeKind.count_newline_describe (k : NodeKind) :
    k.describe.count '\n' = k.unquotedText.count '\n' := by
  have hquoted : ∀ s, (Text.quoted s).count '\n' = 0 := fun s =>
    List.count_eq_zero.mpr (Text.newline_notMem_quoted s)
  have hdigits : ∀ n, (Nat.toDigits 10 n).count '\n' = 0 := fun n =>
    List.count_eq_zero.mpr fun h =>
      absurd (Nat.isDigit_of_mem_toDigits (by decide) (by decide) h) (by decide)
  unfold describe unquotedText unquoted
  cases k with
  | block b =>
    cases b with
    | paragraph fadeOut => cases fadeOut <;> decide
    | _ => simp [hquoted, hdigits, Block.type, BlockType.name]
  | inline i =>
    cases i with
    | taskMarker checked => cases checked <;> decide
    | _ => simp [hquoted, Inline.name]

/-- The line of a node without the line feed at its end. -/
def Outline.entry (depth : Nat) (kind : NodeKind) : List Char :=
  (Outline.line depth kind).dropLast

theorem Outline.line_eq_entry (depth : Nat) (kind : NodeKind) :
    line depth kind = entry depth kind ++ ['\n'] := by
  simp [entry, line]

theorem Outline.count_newline_entry (depth : Nat) (kind : NodeKind) :
    (entry depth kind).count '\n' = kind.unquotedText.count '\n' := by
  have hdigits : (toString depth).toList.count '\n' = 0 :=
    List.count_eq_zero.mpr fun h => absurd (Text.isDigit_of_mem_toString h) (by decide)
  have htag : (if maxIndent < depth then '(' :: (toString depth).toList ++ [')', ' '] else []).count
      '\n' = 0 := by
    split
    · rw [List.cons_append, List.count_cons_of_ne (by decide), List.count_append, hdigits]
      rfl
    · rfl
  have hblanks : ∀ n, (List.replicate n ' ').count '\n' = 0 := fun n =>
    List.count_eq_zero.mpr fun h => absurd (List.eq_of_mem_replicate h) (by decide)
  rw [entry, line, List.dropLast_concat, List.count_append, List.count_append, hblanks, htag,
    kind.count_newline_describe]
  simp

theorem count_newline_flatMap {α : Type} {f g : α → List Char}
    (h : ∀ a, (f a).count '\n' = (g a).count '\n') (l : List α) :
    (l.flatMap fun a => f a ++ ['\n']).count '\n' = l.length + (l.flatMap g).count '\n' := by
  induction l with
  | nil => rfl
  | cons a l ih =>
    have hself : (f a ++ ['\n']).count '\n' = (g a).count '\n' + 1 := by
      rw [List.count_append, h]
      rfl
    rw [List.flatMap_cons, List.count_append, hself, ih, List.length_cons, List.flatMap_cons,
      List.count_append]
    omega

/-- **The line feeds of an outline.** There is one at the end of the entry of each node. All others
stand in labels and destinations, which are shown as they are. So the outline has one line for each
node just if there is no line feed in any of these. -/
theorem dump_line_feeds (operations : List Builder.Operation) :
    let doc := (Builder.run operations).document
    ∃ entry : NodeId → List Char,
      doc.dump = String.ofList (doc.iter.flatMap fun id => entry id ++ ['\n']) ∧
      (∀ id, (entry id).count '\n' = (doc.kind id).unquotedText.count '\n') ∧
      doc.dump.toList.count '\n' =
        doc.size + (doc.iter.flatMap fun id => (doc.kind id).unquotedText).count '\n' ∧
      (Text.lines doc.dump.toList).length = doc.dump.toList.count '\n' ∧
      ((Text.lines doc.dump.toList).length = doc.size ↔
        ∀ id ∈ doc.iter, ∀ s ∈ (doc.kind id).unquoted, '\n' ∉ s.toList) := by
  intro doc
  let entry (id : NodeId) : List Char :=
    Outline.entry (doc.ancestors id).length (doc.kind id)
  have hentry : ∀ id, (entry id).count '\n' = (doc.kind id).unquotedText.count '\n' :=
    fun id => Outline.count_newline_entry _ _
  have hdump : doc.dump = String.ofList (doc.iter.flatMap fun id => entry id ++ ['\n']) := by
    rw [Document.dump, Builder.outline_run operations]
    simp only [Outline.line_eq_entry]
    rfl
  have hcount : (doc.iter.flatMap fun id => entry id ++ ['\n']).count '\n' =
      doc.size + (doc.iter.flatMap fun id => (doc.kind id).unquotedText).count '\n' := by
    rw [count_newline_flatMap hentry, Document.iter, List.length_range]
  refine ⟨entry, hdump, hentry, ?_⟩
  rw [hdump, String.toList_ofList, Text.length_lines_flatMap, hcount]
  refine ⟨rfl, rfl, ?_⟩
  rw [Nat.add_eq_left, List.count_eq_zero]
  simp [NodeKind.unquotedText]

/-- A line feed in the destination of a link breaks the line of the link. -/
theorem dump_broken_by_destination :
    let doc := (Builder.run [.openNode (.block (.paragraph false)),
      .openNode (.inline (.link "a\nb" "")), .leaf (.inline (.text "x"))]).document
    doc.size = 4 ∧ doc.dump.toList.count '\n' = 5 ∧ (Text.lines doc.dump.toList).length = 5 := by
  intro doc
  rw [Document.dump, String.toList_ofList]
  decide

end MarkdownTree
