import MarkdownTree.Render.Call

/-!
# Layouts from calls

A layout builder is the sink that makes a layout. It keeps the containers that are open on a
stack, innermost first, and repairs calls that do not balance: an end that does not fit the
innermost container is ignored, and containers still open at the end are closed. Each repair
leaves a warning.
-/

namespace MarkdownTree

/-- The containers that calls open. -/
inductive ContainerKind
  | quote | heading | list | item
deriving DecidableEq, Repr, Inhabited

/-- The name of a container in warnings. -/
def ContainerKind.name : ContainerKind → String
  | .quote => "block quote"
  | .heading => "heading"
  | .list => "list"
  | .item => "list item"

/-- What a layout builder had to repair. -/
inductive LayoutWarning
  /-- A container was still open at the end. -/
  | unterminated (container : ContainerKind)
  /-- A block came between the items of a list and became an item. -/
  | betweenItems
  /-- An item ended outside of a list; its blocks are kept. -/
  | itemOutsideList
  /-- An end did not fit the innermost open container. -/
  | unbalancedEnd (expected : ContainerKind) (found : Option ContainerKind)
deriving DecidableEq, Repr, Inhabited

/-- An open container and the blocks it holds so far. -/
inductive OpenContainer
  | quote (content : List LayoutBlock)
  | heading (level : Nat) (content : List LayoutBlock)
  | list (kind : ListKind) (startIndex : Int) (items : List (List LayoutBlock))
  | item (content : List LayoutBlock)
deriving Repr, Inhabited

/-- The kind of an open container. -/
def OpenContainer.kind : OpenContainer → ContainerKind
  | .quote _ => .quote
  | .heading _ _ => .heading
  | .list _ _ _ => .list
  | .item _ => .item

/-- A layout under construction. -/
structure LayoutBuilder where
  blocks : List LayoutBlock := []
  stack : List OpenContainer := []
  warnings : List LayoutWarning := []
deriving Repr, Inhabited

namespace LayoutBuilder

/-- Leaves a warning. -/
def warn (b : LayoutBuilder) (w : LayoutWarning) : LayoutBuilder :=
  { b with warnings := b.warnings ++ [w] }

/-- Opens a container. -/
def enter (b : LayoutBuilder) (c : OpenContainer) : LayoutBuilder :=
  { b with stack := c :: b.stack }

/-- Adds a block to the innermost container. Between the items of a list it becomes an item. -/
def push (b : LayoutBuilder) (block : LayoutBlock) : LayoutBuilder :=
  match b.stack with
  | .quote content :: stack => { b with stack := .quote (content ++ [block]) :: stack }
  | .item content :: stack => { b with stack := .item (content ++ [block]) :: stack }
  | .heading level content :: stack =>
    { b with stack := .heading level (content ++ [block]) :: stack }
  | .list kind start items :: stack =>
    { b with stack := .list kind start (items ++ [[block]]) :: stack }.warn .betweenItems
  | [] => { b with blocks := b.blocks ++ [block] }

/-- Adds a container that was taken off the stack to what holds it. An item outside of a list
dissolves into its blocks. -/
def shut (b : LayoutBuilder) : OpenContainer → LayoutBuilder
  | .quote content => b.push (.quote content)
  | .heading level content => b.push (.heading level content)
  | .list kind start items => b.push (.list kind start items)
  | .item content =>
    match b.stack with
    | .list kind start items :: stack =>
      { b with stack := .list kind start (items ++ [content]) :: stack }
    | _ => content.foldl push (b.warn .itemOutsideList)

/-- Closes the innermost container, if it is of the expected kind. -/
def leave (b : LayoutBuilder) (expected : ContainerKind) : LayoutBuilder :=
  match b.stack with
  | c :: stack =>
    if c.kind = expected then { b with stack }.shut c
    else b.warn (.unbalancedEnd expected (some c.kind))
  | [] => b.warn (.unbalancedEnd expected none)

/-- Takes in one call. -/
def emit (doc : Document) (b : LayoutBuilder) : Call → LayoutBuilder
  | .quoteStart => b.enter (.quote [])
  | .quoteEnd => b.leave .quote
  | .rule => b.push .rule
  | .headingStart level => b.enter (.heading level [])
  | .headingEnd => b.leave .heading
  | .code language text => b.push (.code language text)
  | .listStart kind start => b.enter (.list kind start [])
  | .itemStart _ => b.enter (.item [])
  | .itemEnd => b.leave .item
  | .listEnd => b.leave .list
  | .empty => b.push .empty
  | .text source fadeOut => b.push (.text (doc.spans source) fadeOut)
  | .run text => b.push (.run text)
  | .html literal => b.push (.html literal)
  | .table root => b.push (.table (Table.ofNode doc root))

instance : Sink LayoutBuilder := ⟨emit⟩

/-- Number of blocks and items that the open containers still have to be added to. -/
def height (b : LayoutBuilder) : Nat :=
  b.stack.length

/-- Closes the given number of containers, innermost first. -/
def closeOpen : Nat → LayoutBuilder → LayoutBuilder
  | 0, b => b
  | n + 1, b =>
    match b.stack with
    | c :: stack => closeOpen n (({ b with stack }.warn (.unterminated c.kind)).shut c)
    | [] => b

/-- Closes the containers that are still open. -/
def finish (b : LayoutBuilder) : LayoutBuilder :=
  closeOpen b.height b

/-- The layout of a finished builder. -/
def layout (b : LayoutBuilder) : Layout :=
  ⟨b.blocks⟩

/-- The finished builder after some calls. -/
def ofCalls (doc : Document) (calls : List Call) : LayoutBuilder :=
  (calls.foldl (emit doc) {}).finish

end LayoutBuilder

end MarkdownTree
