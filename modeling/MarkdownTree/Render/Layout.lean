import MarkdownTree.Layout.Builder
import MarkdownTree.Render.Pass

/-!
# Rendering to a layout

A pass over a whole document into a layout builder.
-/

namespace MarkdownTree

/-- The layout of a document, the diagnostics of the pass and the warnings of the builder. -/
structure Rendering where
  layout : Layout
  diagnostics : List Diagnostic
  warnings : List LayoutWarning
deriving Repr

/-- The rendering that a finished pass leaves. -/
def Rendering.ofPass (p : Pass LayoutBuilder) : Rendering :=
  let b := p.sink.finish
  ⟨b.layout, p.diagnostics.reverse, b.warnings⟩

/-- Renders a document from the root on. -/
def Document.render (doc : Document) (composer : Composer) (maxDepth : Nat) : Rendering :=
  .ofPass (Pass.run ⟨doc, composer⟩ maxDepth (some 0) {})

end MarkdownTree
