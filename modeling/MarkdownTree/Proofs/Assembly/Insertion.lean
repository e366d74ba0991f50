import MarkdownTree.Proofs.Assembly.Housed

/-!
# Where definitions are inserted

* `assemble_interleaved` — where no definition is obstructed, a forest with definitions becomes the
  tree that it stands for with them.
* `assemble_obstructed` — behind bare inline content a definition may end up in another container.
-/

namespace MarkdownTree

section

open Assembly EventTree

/-- **Definitions are inserted where they are defined**, if those behind bare inline content get out
of it in front of what follows. The forest has no bare inline content outside of its tags, its ranges
are consistent, and every definition lies directly in the document, a quote, an item or a footnote.
Then the document has each definition among the children of the innermost tag around it, behind what
is in front of it and in front of what is behind it. -/
theorem assemble_interleaved {forest : List EventTree} {definitions : List Definition}
    (hnested : wellNestedAll forest = true) (htop : ∀ t ∈ forest, t.leavesRun false = false)
    (hranged : RangedAll 0 endOfSource forest)
    (hdistinct : (definitions.map Definition.first).Nodup)
    (hbound : ∀ d ∈ definitions, d.first < endOfSource)
    (hhouses : HousesAll true (Definition.sorted definitions) forest)
    (hclear : UnobstructedAll false (Definition.sorted definitions) forest) :
    Document.assemble (eventsAll forest) definitions false =
      (translateWith (Definition.sorted definitions) forest).document := by
  have hbegin : begin definitions =
      (inside .new [] .new).withPending (Definition.sorted definitions ++ []) := by
    rw [inside_new, List.append_nil]
    rfl
  have hopens : Opens [] := trivial
  have hrest : ∀ d ∈ ([] : List Definition), endOfSource ≤ d.first := by simp
  have hamong : Among true false forest (Definition.sorted definitions) :=
    ⟨Definition.pairwise_sorted hdistinct, hhouses, hclear⟩
  obtain ⟨c, ds, hc⟩ := exists_leavesToEnd forest hnested hranged (z := .new) (c := .new) hopens rfl
    hamong hrest
  -- no paragraph is open at the end, and what is left is inserted there
  obtain ⟨done, run⟩ := c
  cases hc.closed htop rfl
  have hlt : ∀ d ∈ ds, d.first < endOfSource := fun d hd =>
    hbound d ((Definition.sorted_perm definitions).subset (hc.subset hd))
  have hflush := flush_opens (z := Zipper.new.append done) hopens rfl hlt hrest
  have hchildren := hc.children_eq
  rw [Content.trees_of_run_nil] at hchildren
  show ((_ : Assembly).flush endOfSource).builder.document = _
  rw [hbegin, hc.foldl_step, inside_of_run_nil, hflush, Zipper.append_append, hchildren]
  exact Zipper.document_builder _

/-- A definition in a quote, one in a quote inside of a definition list, one between the bare text of
an item and metadata, and one behind the list. -/
theorem assemble_interleaved_quote :
    let w : Definition := ⟨"w", "/t", none, 10⟩
    let x : Definition := ⟨"x", "/u", none, 24⟩
    let y : Definition := ⟨"y", "/v", none, 36⟩
    let z : Definition := ⟨"z", "/w", some "title", 60⟩
    let forest : List EventTree :=
      [.element .blockQuote ⟨0, 20⟩ ⟨0, 20⟩
          [.element .paragraph ⟨2, 7⟩ ⟨2, 7⟩ [.leaf (.text "q") ⟨2, 6⟩], .leaf .rule ⟨16, 19⟩],
        .element .definitionList ⟨20, 28⟩ ⟨20, 28⟩ [.element .blockQuote ⟨22, 28⟩ ⟨22, 28⟩ []],
        .element (.list none) ⟨30, 50⟩ ⟨30, 50⟩
          [.element .item ⟨30, 50⟩ ⟨30, 50⟩
            [.leaf (.text "a") ⟨32, 34⟩,
              .element .metadata ⟨40, 48⟩ ⟨40, 48⟩ [.leaf (.text "m") ⟨42, 46⟩]]]]
    let paragraph (s : String) : Tree :=
      .node (.block (.paragraph false)) [.node (.inline (.text s)) []]
    wellNestedAll forest = true ∧ (∀ t ∈ forest, t.leavesRun false = false) ∧
      RangedAll 0 endOfSource forest ∧ ([w, x, y, z].map Definition.first).Nodup ∧
      (∀ d ∈ [w, x, y, z], d.first < endOfSource) ∧
      HousesAll true (Definition.sorted [w, x, y, z]) forest ∧
      UnobstructedAll false (Definition.sorted [w, x, y, z]) forest ∧
      Document.assemble (eventsAll forest) [w, x, y, z] false =
        (Tree.node (.block .document)
          [.node (.block .blockQuote)
            [paragraph "q", w.tree, .node (.block .thematicBreak) []],
            .node (.block .blockQuote) [x.tree],
            .node (.block .unorderedList) [.node (.block .listItem) [paragraph "a", y.tree]],
            z.tree]).document := by
  intro w x y z forest paragraph
  have hsorted : Definition.sorted [w, x, y, z] = [w, x, y, z] :=
    Definition.sorted_eq_self (by decide)
  have hranged : RangedAll 0 endOfSource forest := by
    simp [forest, RangedAll, Ranged, first, last, endOfSource]
  have hhouses : HousesAll true (Definition.sorted [w, x, y, z]) forest := by
    rw [hsorted]
    simp [forest, w, x, y, z, HousesAll, Houses, Definition.upTo, Definition.onwards, first, Tag.role,
      Tag.Role.acceptsDefinitions, NodeKind.acceptsDefinitions, reach]
  have hclear : UnobstructedAll false (Definition.sorted [w, x, y, z]) forest := by
    rw [hsorted]
    simp [forest, w, x, y, z, UnobstructedAll, Unobstructed, Definition.upTo, Definition.onwards,
      first, reach, leavesRun, letsOut, refuses, refusesAll, Tag.role, Tag.Role.acceptsDefinitions]
  refine ⟨rfl, by decide, hranged, by decide, by decide, hhouses, hclear, ?_⟩
  rw [assemble_interleaved rfl (by decide) hranged (by decide) (by decide) hhouses hclear, hsorted]
  simp [forest, paragraph, w, x, y, z, translateWith, parts, piecesWith, Definition.upTo,
    Definition.onwards, first, reach, Tag.role, Part.fill, Part.pieces, Part.arrange, Tree.fill,
    Event.pieces, Event.inline?, NodeKind.acceptsDefinitions, NodeKind.acceptsInline,
    Piece.wrap, Piece.wrapRuns, Piece.tree?]

/-- An item with bare text, a nested list behind it, and a definition between them: it lies directly
in the outer item, and the assembly places it in the inner one. -/
theorem assemble_obstructed :
    let x : Definition := ⟨"x", "/u", none, 10⟩
    let forest : List EventTree :=
      [.element (.list none) ⟨0, 30⟩ ⟨0, 30⟩
        [.element .item ⟨0, 30⟩ ⟨0, 30⟩
          [.leaf (.text "a") ⟨2, 6⟩,
            .element (.list none) ⟨20, 28⟩ ⟨20, 28⟩
              [.element .item ⟨20, 28⟩ ⟨20, 28⟩ [.leaf (.text "b") ⟨22, 24⟩]]]]]
    let paragraph (s : String) : Tree :=
      .node (.block (.paragraph false)) [.node (.inline (.text s)) []]
    let inList (ts : List Tree) : Tree :=
      .node (.block .unorderedList) [.node (.block .listItem) ts]
    wellNestedAll forest = true ∧ (∀ t ∈ forest, t.leavesRun false = false) ∧
      RangedAll 0 endOfSource forest ∧ HousesAll true [x] forest ∧
      translateWith [x] forest = .node (.block .document)
        [inList [paragraph "a", x.tree, inList [paragraph "b"]]] ∧
      (Document.assemble (eventsAll forest) [x] false).tree = .node (.block .document)
        [inList [paragraph "a", inList [x.tree, paragraph "b"]]] := by
  intro x forest paragraph inList
  refine ⟨rfl, by decide, ?_, ?_, ?_, ?_⟩
  · simp [forest, RangedAll, Ranged, first, last, endOfSource]
  · simp [forest, x, HousesAll, Houses, Definition.upTo, Definition.onwards, first, reach, Tag.role,
      Tag.Role.acceptsDefinitions, NodeKind.acceptsDefinitions]
  · simp [forest, x, inList, paragraph, translateWith, parts, piecesWith, Definition.upTo,
      Definition.onwards, first, reach, Tag.role, Part.fill, Part.pieces, Part.arrange, Tree.fill,
      Event.pieces, Event.inline?, NodeKind.acceptsDefinitions, NodeKind.acceptsInline, Piece.wrap,
      Piece.wrapRuns]
  · have hdocument : Document.assemble (eventsAll forest) [x] false =
        (Tree.node (.block .document)
          [inList [paragraph "a", inList [x.tree, paragraph "b"]]]).document := by
      rw [Document.assemble, begin, Definition.sorted_singleton]
      decide +kernel
    rw [hdocument, Tree.tree_document]

end

end MarkdownTree
