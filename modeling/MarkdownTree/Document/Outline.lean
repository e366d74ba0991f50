import MarkdownTree.Document.Basic
import MarkdownTree.Text.Quoted

/-!
# Outlines

An outline shows a document as text, one node per line in document order. A line is indented by
its depth; from `maxIndent` levels on the indentation stays and the line shows its depth as a
number, so the outline is linear in the number of nodes.

The walk keeps the chains of siblings still to be visited on a stack, innermost first. The height
of the stack is the depth of the next node.
-/

namespace MarkdownTree

/-- The text of a kind in an outline. -/
def NodeKind.describe : NodeKind → List Char
  | .block (.orderedList start) => "ordered_list start=".toList ++ (toString start).toList
  | .block (.heading level) => "heading level=".toList ++ (toString level).toList
  | .block (.indentedCodeBlock literal) =>
    "indented_code_block ".toList ++ Text.quoted literal
  | .block (.htmlBlock literal) => "html_block ".toList ++ Text.quoted literal
  | .block (.fencedCodeBlock info literal) =>
    "fenced_code_block info=".toList ++ Text.quoted info ++ ' ' :: Text.quoted literal
  | .block (.linkReferenceDefinition label destination _) =>
    "link_reference_definition [".toList ++ label.toList ++ "]: ".toList ++ destination.toList
  | .block (.paragraph true) => "paragraph fade_out".toList
  | .block (.footDefinition label) => "foot_definition [^".toList ++ label.toList ++ [']']
  | .block (.footReferenceDefinition label) =>
    "foot_reference_definition [^".toList ++ label.toList ++ [']']
  | .block b => b.type.name.toList
  | .inline (.text literal) => "text ".toList ++ Text.quoted literal
  | .inline (.code literal) => "code ".toList ++ Text.quoted literal
  | .inline (.htmlInline literal) => "html_inline ".toList ++ Text.quoted literal
  | .inline (.link destination _) => "link ".toList ++ destination.toList
  | .inline (.image destination _) => "image ".toList ++ destination.toList
  | .inline (.footnoteReference label) =>
    "footnote_reference [^".toList ++ label.toList ++ [']']
  | .inline (.taskMarker checked) =>
    "task_marker checked=".toList ++ (if checked then "true" else "false").toList
  | .inline i => i.name.toList

namespace Outline

/-- Deepest level that is indented. -/
def maxIndent : Nat := 32

/-- The line of a node of the given depth. -/
def line (depth : Nat) (kind : NodeKind) : List Char :=
  let tag := if maxIndent < depth then '(' :: (toString depth).toList ++ [')', ' '] else []
  List.replicate (2 * min depth maxIndent) ' ' ++ tag ++ kind.describe ++ ['\n']

/-- The nodes below the current one with their depths, in document order. Every stack entry is the
rest of a chain of siblings. -/
def walk (doc : Document) : Nat → List (Option NodeId) → List (Nat × NodeId)
  | 0, _ => []
  | _, [] => []
  | bound + 1, none :: stack => walk doc bound stack
  | bound + 1, some id :: stack =>
    (stack.length + 1, id) ::
      walk doc bound (doc.firstChild? id :: doc.nextSibling? id :: stack)

end Outline

/-- The nodes of a document with their depths, in document order. Each node takes two steps of the
walk: one for itself and one for the end of its children. -/
def Document.preorder (doc : Document) : List (Nat × NodeId) :=
  (0, 0) :: Outline.walk doc (2 * doc.size) [doc.firstChild? 0]

/-- The outline of a document. -/
def Document.outline (doc : Document) : List Char :=
  doc.preorder.flatMap fun entry => Outline.line entry.1 (doc.kind entry.2)

/-- The outline of a document as a string. -/
def Document.dump (doc : Document) : String :=
  String.ofList doc.outline

end MarkdownTree
