import MarkdownTree.Document.Basic

/-!
# Spans

The inline content of a node is shown as a flat list of spans: runs of text with one style and one
link. Containers add their style to everything inside, the innermost link or image wins, and
neighbours of equal style and link become one span.

Blocks among inline content are left out, with everything below them, and listed as skipped.

Nesting is walked with a stack of the containers that are open, innermost first.
-/

namespace MarkdownTree

/-- The style of a span. -/
structure Style where
  strong : Bool := false
  emphasis : Bool := false
  strikethrough : Bool := false
  code : Bool := false
  superscript : Bool := false
  subscript : Bool := false
deriving DecidableEq, Repr, Inhabited

/-- Whether no style is set. -/
def Style.isPlain (style : Style) : Bool :=
  style == {}

/-- A run of text with one style. `link` is the destination of the link or image around it. -/
structure Span where
  text : String
  style : Style
  link : Option String
deriving DecidableEq, Repr, Inhabited

/-- The text of spans without their styles. -/
def Span.plainText (spans : List Span) : String :=
  String.join (spans.map (·.text))

/-- An inline container being walked: the next of its children, and the style and the link that they
inherit. -/
structure SpanFrame where
  next : Option NodeId
  style : Style
  link : Option String
deriving DecidableEq, Repr, Inhabited

/-- Spans being collected. `spans` is newest first, and so is `skipped`, the blocks left out. -/
structure SpanCollector where
  spans : List Span := []
  skipped : List NodeId := []
deriving DecidableEq, Repr, Inhabited

namespace SpanCollector

/-- Adds text to the spans: to the last one if style and link agree. Empty text adds nothing. -/
def push (c : SpanCollector) (text : String) (style : Style) (link : Option String) :
    SpanCollector :=
  if text.isEmpty then c
  else
    match c.spans with
    | last :: spans =>
      if last.style = style ∧ last.link = link then
        { c with spans := { last with text := last.text ++ text } :: spans }
      else { c with spans := ⟨text, style, link⟩ :: last :: spans }
    | [] => { c with spans := [⟨text, style, link⟩] }

/-- Notes that a block was left out. -/
def skip (c : SpanCollector) (id : NodeId) : SpanCollector :=
  { c with skipped := id :: c.skipped }

/-- What an inline kind does to the style and link of its content, if it is a container. -/
def enter (style : Style) (link : Option String) : Inline → Option (Style × Option String)
  | .emphasis => some ({ style with emphasis := true }, link)
  | .strong => some ({ style with strong := true }, link)
  | .strikethrough => some ({ style with strikethrough := true }, link)
  | .superscript => some ({ style with superscript := true }, link)
  | .subscript => some ({ style with subscript := true }, link)
  | .link destination _ => some (style, some destination)
  | .image destination _ => some (style, some destination)
  | _ => none

/-- The text and style that an inline leaf shows. Containers show nothing of their own. -/
def leafText (style : Style) : Inline → String × Style
  | .text s => (s, style)
  | .htmlInline s => (s, style)
  | .code s => (s, { style with code := true })
  | .softBreak => (" ", style)
  | .hardBreak => ("\n", style)
  | .footnoteReference label => ("[" ++ label ++ "]", { style with superscript := true })
  | .taskMarker checked => (if checked then "[x] " else "[ ] ", style)
  | _ => ("", style)

/-- One step of the walk, on the innermost container and the others on the stack. The next child is
taken: a block is left out, a leaf adds its text, and a container goes on the stack. Where there is
no child left, the container comes off the stack. -/
def step (doc : Document) (c : SpanCollector) (frame : SpanFrame) (stack : List SpanFrame) :
    SpanCollector × List SpanFrame :=
  match frame.next with
  | none => (c, stack)
  | some id =>
    let stack := { frame with next := doc.nextSibling? id } :: stack
    match doc.kind id with
    | .block _ => (c.skip id, stack)
    | .inline i =>
      match enter frame.style frame.link i with
      | some (style, link) => (c, ⟨doc.firstChild? id, style, link⟩ :: stack)
      | none =>
        let (text, style) := leafText frame.style i
        (c.push text style frame.link, stack)

/-- Walks what is on the stack, innermost first, in at most `bound` steps. -/
def walk (doc : Document) : Nat → SpanCollector → List SpanFrame → SpanCollector
  | 0, c, _ => c
  | _, c, [] => c
  | bound + 1, c, frame :: stack =>
    let (c, stack) := step doc c frame stack
    walk doc bound c stack

/-- Collects the children of a node. Each node takes two steps at most: one for itself and one for
the end of its children. -/
def collect (doc : Document) (id : NodeId) : SpanCollector :=
  walk doc (2 * doc.size) {} [⟨doc.firstChild? id, {}, none⟩]

end SpanCollector

/-- The spans of the inline content of a node. -/
def Document.spans (doc : Document) (id : NodeId) : List Span :=
  (SpanCollector.collect doc id).spans.reverse

/-- The blocks among the inline content of a node, in document order. -/
def Document.skippedBlocks (doc : Document) (id : NodeId) : List NodeId :=
  (SpanCollector.collect doc id).skipped.reverse

end MarkdownTree
