import MarkdownTree.Render.Composer
import MarkdownTree.Text.Blank

/-!
# Rendering

A pass walks a document from a node and turns it into calls on a sink. Every node is dispatched:
if the composer claims its block type, the composer's actions are performed, else the default rule
for its kind is. Both go on with the walk through the same dispatch.

Nesting is limited. A node that would be dispatched beyond the limit is reported and left out with
everything below it, which also bounds composers that render a node again.
-/

namespace MarkdownTree

/-- The state of a pass. `visits` holds the nodes given to the composer with the depth at that
time. Lists are newest first. -/
structure Pass (σ : Type) where
  sink : σ
  diagnostics : List Diagnostic := []
  visits : List (NodeId × Nat) := []
  depth : Nat := 0
deriving Repr

/-- What stays the same during a pass. -/
structure PassSetup where
  doc : Document
  composer : Composer

/-- The limit of nesting that holds if none is given. -/
def defaultMaxDepth : Nat := 256

namespace Pass

variable {σ : Type} [Sink σ]

/-- Makes a call on the sink. -/
def emit (setup : PassSetup) (p : Pass σ) (call : Call) : Pass σ :=
  { p with sink := Sink.emit setup.doc p.sink call }

/-- Records that something is wrong with a node. -/
def report (setup : PassSetup) (p : Pass σ) (id : NodeId) (kind : DiagnosticKind) : Pass σ :=
  { p with diagnostics := .of setup.doc id kind :: p.diagnostics }

/-- The start index of an ordered list whose first number is `start`. Indices have 63 bits; the
index of a greater number is one less than the largest. -/
def startIndex (start : Nat) : Int :=
  if start < 0x8000000000000000 then (start : Int) - 1 else 0x7FFFFFFFFFFFFFFE

/-- The language of a fenced code block: the first word after the fence. -/
def fenceLanguage (info : String) : Option String :=
  (Text.firstWord? info.toList).map String.ofList

/-- A code literal as it is shown: without blanks around it. -/
def codeText (literal : String) : String :=
  String.ofList (Text.trim literal.toList)

/-- Renders nodes in order by the given dispatch. -/
def renderAll (visit : NodeId → Pass σ → Pass σ) (ids : List NodeId) (p : Pass σ) : Pass σ :=
  ids.foldl (fun p id => visit id p) p

/-- Renders the items of a list, counted from `index`. An item is shown by its children; without
any it leaves an empty place. -/
def renderItems (setup : PassSetup) (visit : NodeId → Pass σ → Pass σ) :
    Nat → List NodeId → Pass σ → Pass σ
  | _, [], p => p
  | index, id :: ids, p =>
    let p := p.emit setup (.itemStart index)
    let p := match setup.doc.children id with
      | [] => p.emit setup .empty
      | children => renderAll visit children p
    renderItems setup visit (index + 1) ids (p.emit setup .itemEnd)

/-- Renders a list with the given items. -/
def renderList (setup : PassSetup) (visit : NodeId → Pass σ → Pass σ) (kind : ListKind)
    (start : Int) (items : List NodeId) (p : Pass σ) : Pass σ :=
  (renderItems setup visit 0 items (p.emit setup (.listStart kind start))).emit setup .listEnd

/-- The default rule of each block kind. -/
def blockRule (setup : PassSetup) (visit : NodeId → Pass σ → Pass σ) (id : NodeId) (p : Pass σ) :
    Block → Pass σ
  | .document => renderAll visit (setup.doc.children id) p
  | .blockQuote =>
    (renderAll visit (setup.doc.children id) (p.emit setup .quoteStart)).emit setup .quoteEnd
  | .unorderedList =>
    renderList setup visit .unordered 0
      ((setup.doc.children id).filter fun c => (setup.doc.kind c).isListItem) p
  | .orderedList start =>
    renderList setup visit .ordered (startIndex start) (setup.doc.children id) p
  | .thematicBreak => p.emit setup .rule
  | .heading level =>
    ((p.emit setup (.headingStart level)).emit setup (.text id false)).emit setup .headingEnd
  | .indentedCodeBlock literal => p.emit setup (.code none (codeText literal))
  | .fencedCodeBlock info literal =>
    p.emit setup (.code (fenceLanguage info) (codeText literal))
  | .htmlBlock literal => p.emit setup (.html literal)
  | .linkReferenceDefinition _ _ _ => p
  | .paragraph fadeOut => p.emit setup (.text id fadeOut)
  | .tableRoot _ => p.emit setup (.table id)
  | .listItem => p.report setup id .listItemOutsideList
  | .tableHeader | .tableBody | .tableRow | .tableCell =>
    p.report setup id .tablePartOutsideTable
  | .footDefinition label => p.emit setup (.run label)
  | .footReferenceDefinition label =>
    renderAll visit (setup.doc.children id) (p.emit setup (.run label))

/-- The default rule of each node. -/
def defaultRule (setup : PassSetup) (visit : NodeId → Pass σ → Pass σ) (id : NodeId)
    (p : Pass σ) : Pass σ :=
  match setup.doc.kind id with
  | .block b => blockRule setup visit id p b
  | .inline (.text literal) =>
    (p.report setup id .textOutsideBlock).emit setup (.run literal)
  | .inline _ => p.report setup id .inlineInBlockPosition

/-- One action of a composer. -/
def perform (setup : PassSetup) (visit : NodeId → Pass σ → Pass σ) (id : NodeId) (p : Pass σ) :
    Action → Pass σ
  | .children => renderAll visit (setup.doc.children id) p
  | .default => defaultRule setup visit id p
  | .self => visit id p
  | .firstChild => renderAll visit (setup.doc.firstChild? id).toList p
  | .nextSibling => renderAll visit (setup.doc.nextSibling? id).toList p
  | .child index => renderAll visit (setup.doc.children id)[index]?.toList p
  | .grandchildren =>
    (setup.doc.children id).foldl (fun p c => renderAll visit (setup.doc.children c) p) p
  | .blockChildren =>
    if (setup.doc.kind id).acceptsInline then p
    else renderAll visit (setup.doc.children id) p
  | .absent => renderAll visit [] p
  | .report kind => p.report setup id kind
  | .depth => p.emit setup (.run (toString p.depth))
  | .diagnosticCount => p.emit setup (.run (toString p.diagnostics.length))
  | .text fadeOut => p.emit setup (.text id fadeOut)
  | .table => p.emit setup (.table id)
  | .emit call => p.emit setup call

/-- The actions of the composer for a node, if it claims it. -/
def claim? (setup : PassSetup) (id : NodeId) : Option (List Action) :=
  (setup.doc.kind id).blockType?.bind setup.composer.actions

/-- Hands a node to the composer or to its default rule. -/
def dispatch (setup : PassSetup) (visit : NodeId → Pass σ → Pass σ) (id : NodeId) (p : Pass σ) :
    Pass σ :=
  match claim? setup id with
  | some actions =>
    actions.foldl (perform setup visit id) { p with visits := (id, p.depth) :: p.visits }
  | none => defaultRule setup visit id p

/-- Renders one node, with the given number of levels left. -/
def render (setup : PassSetup) : Nat → NodeId → Pass σ → Pass σ
  | 0, id, p => p.report setup id .depthExceeded
  | levels + 1, id, p =>
    let p := dispatch setup (render setup levels) id { p with depth := p.depth + 1 }
    { p with depth := p.depth - 1 }

/-- A pass over the subtree of a node, or over nothing. -/
def run (setup : PassSetup) (maxDepth : Nat) (start : Option NodeId) (sink : σ) : Pass σ :=
  renderAll (render setup maxDepth) start.toList { sink }

end Pass

end MarkdownTree
