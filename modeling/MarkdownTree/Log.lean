import MarkdownTree.Layout.Builder
import MarkdownTree.Table

/-!
# Log events

What a reader of the log learns of repairs and of nodes left out.
-/

namespace MarkdownTree

/-- How much a log event matters. -/
inductive LogLevel
  | warn | debug
deriving DecidableEq, Repr, Inhabited

/-- A log event: a message and named details. -/
structure LogEvent where
  level : LogLevel
  message : String
  details : List (String × String)
deriving DecidableEq, Repr, Inhabited

/-- The name of a log level. -/
def LogLevel.name : LogLevel → String
  | .warn => "WARN"
  | .debug => "DEBUG"

/-- A container that may not be there, as shown in the log. -/
def LogEvent.found : Option ContainerKind → String
  | some c => "Some(\"" ++ c.name ++ "\")"
  | none => "None"

/-- A node as shown in the log. -/
def LogEvent.node (id : NodeId) : String × String :=
  ("node", "#" ++ toString id)

/-- The log event of a repair. -/
def LayoutWarning.event : LayoutWarning → LogEvent
  | .unterminated c => ⟨.warn, "Closing unterminated container", [("container", c.name)]⟩
  | .betweenItems => ⟨.warn, "Block emitted between list items, wrapping in an item", []⟩
  | .itemOutsideList =>
    ⟨.warn, "List item closed outside of a list, keeping its content", []⟩
  | .unbalancedEnd expected found =>
    ⟨.warn, "Ignoring unbalanced end call",
      [("expected", expected.name), ("found", LogEvent.found found)]⟩

/-- The log event of a block that is left out of inline content. -/
def LogEvent.skippedBlock (doc : Document) (id : NodeId) : LogEvent :=
  ⟨.debug, "Skipping block node inside inline content",
    [LogEvent.node id, ("block", (doc.kind id).name)]⟩

/-- The log event of a node that is left out of a table. -/
def LogEvent.skippedStray (id : NodeId) : LogEvent :=
  ⟨.debug, "Skipping non-table node inside table", [LogEvent.node id]⟩

/-- The log events of collecting the spans of a node. -/
def Document.spanEvents (doc : Document) (id : NodeId) : List LogEvent :=
  (doc.skippedBlocks id).map (.skippedBlock doc)

/-- The log event of a node that is left out while a table is gathered. -/
def Table.Skip.event (doc : Document) : Table.Skip → LogEvent
  | stray id => .skippedStray id
  | inCell id => .skippedBlock doc id

/-- The log events of gathering the table below a node, without those of its cells. -/
def Table.events (doc : Document) (id : NodeId) : List LogEvent :=
  (Table.skipped doc id).map .skippedStray

/-- What is logged when a call shows the inline content of a node or a table: the nodes that are
left out, in the order in which they are. -/
def Call.events (doc : Document) : Call → List LogEvent
  | .text source _ => doc.spanEvents source
  | .table root => (Table.gather doc root).skips.map (·.event doc)
  | _ => []

end MarkdownTree
