import MarkdownTree.Proofs.Render.Clean

/-!
# From events to a layout

A document is assembled from events, walked by a pass, its inline content collected into spans, and
its blocks put together by the layout builder. None of this loses text, shows it twice or moves it.

* `shown_render_assemble` — what the layout shows is what the events contribute, provided that the
  limit of nesting is not met.
-/

namespace MarkdownTree

/-- A clean document is shown completely, if the limit of nesting is not met. -/
theorem Document.Holds.shown_render {doc : Document} {t : Tree} (h : doc.Holds 0 t)
    (hclean : t.clean = true) {maxDepth : Nat}
    (hlimit : ∀ d ∈ (doc.render .none maxDepth).diagnostics, d.kind ≠ .depthExceeded) :
    (doc.render .none maxDepth).layout.shown = t.shown := by
  rw [h.render_eq maxDepth] at hlimit ⊢
  -- the limit is all that could be reported, so nothing is, and the levels are enough
  have hnone : doc.diagnostics maxDepth 0 = [] := by
    refine List.eq_nil_iff_forall_not_mem.mpr fun d hd => hlimit d hd ?_
    exact h.kind_of_mem_diagnostics maxDepth hclean d hd
  have hlevels : t.nesting < maxDepth := (h.diagnostics_eq_nil_iff maxDepth hclean).mp hnone
  exact Tree.shownAll_layout hclean hlevels

/-- **No text is lost, duplicated or moved between the events and the layout.** With any
definitions, marked or not, and levels enough, the text blocks and table cells of the layout have
the text of the inline leaves in order, and its code and HTML blocks are those of the events in
order. -/
theorem shown_render_assemble (forest : List EventTree) (h : EventTree.allBlocks forest = true)
    (definitions : List Definition) (fadeOut : Bool) (maxDepth : Nat)
    (hlimit : ∀ d ∈ ((Document.assemble (EventTree.eventsAll forest) definitions fadeOut).render
      .none maxDepth).diagnostics, d.kind ≠ .depthExceeded) :
    ((Document.assemble (EventTree.eventsAll forest) definitions fadeOut).render
      .none maxDepth).layout.shown = EventTree.shownAll forest := by
  obtain ⟨t, hholds, henriches⟩ :=
    Document.assemble_enriches (EventTree.wellNestedAll_of_allBlocks h) definitions fadeOut
  obtain ⟨hclean, hshown⟩ := clean_translate h
  rw [hholds.shown_render (henriches.clean hclean) hlimit, henriches.shown_eq hclean, hshown]

/-- A tight item with code in it, a definition behind its text, and a table. -/
theorem shown_render_assemble_tight_item :
    let at0 : SourceRange := ⟨0, 0⟩
    let forest : List EventTree :=
      [.element (.list none) at0 ⟨9, 40⟩
        [.element .item at0 ⟨3, 20⟩
          [.leaf (.taskMarker true) at0, .element .strong at0 at0 [.leaf (.text "a") at0],
            .leaf .softBreak at0,
            .element (.literal (.fenced "c d")) ⟨7, 8⟩ at0 [.leaf (.text " b\n") at0]]],
        .element (.table []) at0 at0
          [.element .tableHead at0 at0
            [.element .tableCell at0 at0 [.leaf (.footnoteReference "n") at0]]]]
    let layout := ((Document.assemble (EventTree.eventsAll forest)
      [⟨"x", "/u", none, 5⟩] false).render .none 3).layout
    EventTree.allBlocks forest = true ∧ layout.shown.text = "[x] a [n]" ∧
      layout.shown.literals = [.code (some "c") "b"] := by
  intro at0 forest layout
  have hforest : EventTree.allBlocks forest = true := rfl
  have hlimit : ∀ d ∈ ((Document.assemble (EventTree.eventsAll forest)
      [⟨"x", "/u", none, 5⟩] false).render .none 3).diagnostics, d.kind ≠ .depthExceeded := by
    have hbegin : Assembly.begin [⟨"x", "/u", none, 5⟩] = ⟨.new, [], [⟨"x", "/u", none, 5⟩]⟩ := by
      simp [Assembly.begin]
    simp only [Document.assemble, hbegin]
    decide +kernel
  have hshown : layout.shown = EventTree.shownAll forest :=
    shown_render_assemble forest hforest [⟨"x", "/u", none, 5⟩] false 3 hlimit
  have hliterals : (EventTree.shownAll forest).literals =
      [.code (Pass.fenceLanguage "c d") (Pass.codeText (String.join [" b\n"]))] := rfl
  have hlanguage : Pass.fenceLanguage "c d" = some "c" := by decide +kernel
  have htext : Pass.codeText (String.join [" b\n"]) = "b" := by decide +kernel
  rw [hshown, hliterals, hlanguage, htext]
  exact ⟨hforest, by decide +kernel, rfl⟩

end MarkdownTree
