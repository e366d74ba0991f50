import MarkdownTree.Event
import MarkdownTree.Markdown.Token

/-!
# Elements

The block structure of a text: elements in elements, and at the leaves passages of inline content
that has been cut into tokens but not read yet.

* `Passage` — inline content
* `Element` — a block
* `Trunk` — the containers that are still open, with the elements in them so far
-/

namespace MarkdownTree.Markdown

/-- Inline content: its tokens, the containers around it, and whether it is a cell of a table. -/
structure Passage where
  tokens : List Token
  containers : List Container
  inTable : Bool
deriving Repr, Inhabited

/-- A block and the offsets where it begins and ends. -/
inductive Element
  | container (c : Container) (first last : Nat) (children : List Element)
  | paragraph (bare : Bool) (first last : Nat) (content : Passage)
  | heading (level : Nat) (first last : Nat) (content : Passage)
  | literal (kind : LiteralKind) (text : List Char) (first last : Nat)
  | rule (first last : Nat)
  | table (alignments : List Alignment) (first last : Nat) (rows : List (List Passage))
  | task (checked : Bool) (first last : Nat)
deriving Repr, Inhabited

/-- An element as it stands in an item of a tight list, where paragraphs have no mark-up of their
own. -/
def Element.bare : Element → Element
  | .paragraph _ first last content => .paragraph true first last content
  | e => e

/-- An item with what is in it as it stands in a tight list. -/
def Element.tighten : Element → Element
  | .container c first last children => .container c first last (children.map Element.bare)
  | e => e

/-- An open container. `children` is newest first. -/
structure OpenContainer where
  container : Container
  first : Nat
  children : List Element
deriving Repr, Inhabited

/-- Ends a container. -/
def OpenContainer.finish (o : OpenContainer) (last : Nat) : Element :=
  let children := match o.container with
    | .list true _ _ => o.children.map Element.tighten
    | _ => o.children
  .container o.container o.first last children.reverse

/-- The open containers, innermost first, and the finished elements outside of them, newest
first. -/
structure Trunk where
  opened : List OpenContainer := []
  finished : List Element := []
deriving Repr, Inhabited

namespace Trunk

/-- The open containers, outermost first. -/
def containers (t : Trunk) : List Container :=
  (t.opened.map (·.container)).reverse

/-- The innermost open container. -/
def top? (t : Trunk) : Option Container :=
  t.opened.head?.map (·.container)

/-- Whether the innermost open container is a list. -/
def topIsList (t : Trunk) : Bool :=
  match t.top? with
  | some (.list _ _ _) => true
  | _ => false

/-- Whether the innermost open container is an item. -/
def topIsItem (t : Trunk) : Bool :=
  match t.top? with
  | some (.item _) => true
  | _ => false

/-- Whether the innermost open container is a footnote definition. -/
def topIsFootnote (t : Trunk) : Bool :=
  match t.top? with
  | some (.footnote _) => true
  | _ => false

/-- Adds an element to the innermost open container. -/
def append (t : Trunk) (e : Element) : Trunk :=
  match t.opened with
  | o :: os => { t with opened := { o with children := e :: o.children } :: os }
  | [] => { t with finished := e :: t.finished }

/-- Opens a container. -/
def push (t : Trunk) (c : Container) (first : Nat) : Trunk :=
  { t with opened := ⟨c, first, []⟩ :: t.opened }

/-- Ends the innermost open container. -/
def pop (t : Trunk) (last : Nat) : Trunk :=
  match t.opened with
  | o :: os => { t with opened := os }.append (o.finish last)
  | [] => t

/-- Changes the innermost open container. -/
def modifyTop (f : Container → Container) (t : Trunk) : Trunk :=
  match t.opened with
  | o :: os => { t with opened := { o with container := f o.container } :: os }
  | [] => t

/-- Makes the list around the innermost open container loose. -/
def loosenOuter (t : Trunk) : Trunk :=
  match t.opened with
  | o :: p :: os =>
    match p.container with
    | .list _ marker start =>
      { t with opened := o :: { p with container := .list false marker start } :: os }
    | _ => t
  | _ => t

end Trunk

end MarkdownTree.Markdown
