import MarkdownTree.Markdown.Leaf
import MarkdownTree.Markdown.ReferenceDefinition

/-!
# Block structure

Reads a text into elements, line by line. At the start of a line the open containers take what they
ask for, those that do not go on are ended, new containers begin, and the rest of the line begins a
leaf block. A leaf block reads as many lines as it has.

A list is loose if a blank line stands between two of its items, or between two blocks of one item.

* `Reading` — what is known of the text read so far
* `Reading.line` — reads the block that begins in a line
* `readBlocks` — reads a whole text
-/

namespace MarkdownTree.Markdown

/-- A text read up to the start of a line. `itemBegun` is where the line after an item without
content begins, and `blankBefore` says that the last line was blank. Definitions and the keys of
footnotes are newest first. -/
structure Reading where
  dialect : Dialect
  trunk : Trunk := {}
  itemBegun : Option Nat := none
  blankBefore : Bool := false
  definitions : List Definition := []
  footnotes : List (List Char) := []
deriving Repr, Inhabited

namespace Reading

/-! ## Containers -/

/-- The containers around the next line. -/
def nesting (r : Reading) : Nesting :=
  ⟨r.dialect, r.trunk.containers⟩

/-- Adds an element to the innermost open container. -/
def append (r : Reading) (e : Element) : Reading :=
  { r with trunk := r.trunk.append e }

/-- Ends the innermost open container. -/
def pop (r : Reading) (last : Nat) : Reading :=
  match r.trunk.top? with
  | some (.list true _ _) => { r with trunk := r.trunk.pop last, itemBegun := none }
  | _ => { r with trunk := r.trunk.pop last }

/-- Ends the innermost open containers until `n` are left. -/
def popTo (n last : Nat) : Nat → Reading → Reading
  | 0, r => r
  | bound + 1, r => if r.trunk.opened.length ≤ n then r else popTo n last bound (r.pop last)

/-- Ends an item that began with two blank lines. -/
def finishEmptyItem (r : Reading) : Reading :=
  match r.itemBegun with
  | some last =>
    let r := if r.blankBefore && r.trunk.topIsItem then r.pop last else r
    { r with itemBegun := none }
  | none => r

/-- Ends a list before a block that is no item of it. After a blank line the list around the
innermost container becomes loose. -/
def finishList (r : Reading) (last : Nat) : Reading :=
  let r := r.finishEmptyItem
  let r := if r.trunk.topIsList then r.pop last else r
  if r.blankBefore then { r with trunk := r.trunk.loosenOuter, blankBefore := false } else r

/-- Goes on with a list before one of its items, or begins a list. -/
def continueList (r : Reading) (m : ListMarker) (first : Nat) : Reading :=
  let r := r.finishEmptyItem
  match r.trunk.top? with
  | some (.list tight mark start) =>
    if mark == m.mark then
      { r with trunk := r.trunk.modifyTop fun _ => .list (tight && !r.blankBefore) mark start,
               blankBefore := false }
    else begin (r.finishList first)
  | some _ => begin (r.finishList first)
  | none => begin r
where
  /-- Begins a list. -/
  begin (r : Reading) : Reading :=
    { r with trunk := r.trunk.push (.list true m.mark m.number) first, blankBefore := false }

/-! ## Starts of lines -/

/-- How far the start of a line has been read. -/
inductive Start
  /-- The whole block has been read; the next line begins at `next`. -/
  | done (r : Reading) (next : Cursor)
  /-- A leaf block begins behind the blanks at `l`. Containers that end before it end at
  `last`. -/
  | leaf (r : Reading) (last : Nat) (l : LineCursor)
deriving Inhabited

/-- Begins a footnote definition, which ends an open one. -/
def beginFootnote (r : Reading) (label : List Char) (first : Nat) : Reading :=
  let r := r.finishList first
  let r := if r.trunk.topIsFootnote then r.pop first else r
  { r with trunk := r.trunk.push (.footnote label) first,
           footnotes := Label.key label :: r.footnotes }

/-- An item that has begun: what is left of its first line. -/
def beginItem (r : Reading) (l : LineCursor) : Reading × Option Start :=
  let blank (r : Reading) (c : Cursor) : Option Start :=
    (blankLine? c.rest).map fun n =>
      .done { r with itemBegun := some (c.offset + n) } (c.drop n)
  match blank r l.place with
  | some s => (r, some s)
  | none =>
    match if r.dialect.has .taskLists then l.taskMarker? else none with
    | some (checked, t) =>
      let first := l.place.offset
      let last := t.place.offset
      match blank (r.append (.task checked first last)) t.place with
      | some s => (r, some s)
      | none =>
        let (e, next) := r.nesting.paragraph (t.place.drop (spaces t.rest))
          (some ⟨.task checked, l.place, last⟩)
        (r, some (.done (r.append e) next))
    | none => (r, none)

/-- A quote that has begun with a label in a line of its own: the next line goes on as if the label
were a paragraph. -/
def afterQuoteLabel (r : Reading) (next : Cursor) : Start :=
  match r.nesting.nextLine? next with
  | some l => .leaf r next.offset l.skipAll
  | none => .done r next

/-- Reads the marks of new containers. The bound is more than the number of characters ahead in the
line. -/
def openContainers : Nat → Reading → Nat → LineCursor → Start
  | 0, r, last, l => .leaf r last l
  | bound + 1, r, last, l =>
    let (indent, m) := l.indent 4
    if indent ≥ 4 then .leaf r last l
    else
      let first := m.place.offset
      match if r.dialect.has .footnotes then footnoteLabel? m.rest else none with
      | some (n, label) =>
        let c := m.place.drop n
        let c := c.drop (spaces c.rest)
        openContainers bound (r.beginFootnote label first) c.offset (.start c)
      | none =>
        match m.listMarker? indent with
        | some (marker, depth, m) =>
          let r := r.continueList marker first
          let r := { r with trunk := r.trunk.push (.item depth) first }
          match r.beginItem m with
          | (_, some start) => start
          | (r, none) => openContainers bound r last m
        | none =>
          match m.quoteMark? with
          | some m =>
            let r := r.finishList last
            let r := { r with trunk := r.trunk.push .quote first }
            match if r.dialect.has .quoteLabels then quoteLabel? m.rest else none with
            | some n => r.afterQuoteLabel (m.place.drop n)
            | none => openContainers bound r last m
          | none => .leaf r last l

/-! ## Leaf blocks -/

/-- A blank line. An item that began with a blank line cannot hold anything after a second one, so
it asks for no indentation any more. -/
def blankLine (r : Reading) : Reading :=
  match r.trunk.top? with
  | some .quote => r
  | some (.item _) =>
    let r := { r with blankBefore := true }
    if r.itemBegun.isSome then { r with trunk := r.trunk.modifyTop fun _ => .item 0 } else r
  | _ => { r with blankBefore := true }

/-- Keeps a definition, unless its label is defined already. -/
def define (r : Reading) (d : Definition) : Reading :=
  let key (d : Definition) := Label.key d.label.toList
  if r.definitions.any fun e => key e == key d then r
  else { r with definitions := d :: r.definitions }

/-- Reads definitions, and the paragraph after them if there is one. The bound is more than the
number of characters ahead. -/
def definitionsAndParagraph : Nat → Reading → Cursor → Reading × Cursor
  | 0, r, c => (r, c)
  | bound + 1, r, c =>
    match r.nesting.definition? c with
    | some (d, next) =>
      let r := r.define d
      match r.nesting.nextLine? next with
      | some l => definitionsAndParagraph bound r l.skipAll.place
      | none => (r, next)
    | none =>
      let (e, next) := r.nesting.paragraph c none
      (r.append e, next)

/-- What begins at an angle, if it is an HTML block: the text that ends it, if there is one. -/
def markupHere? : List Char → Option (Option (List Char))
  | '<' :: s =>
    match htmlBlockEnd? s with
    | some stop => some (some stop)
    | none => if startsBlockTag s || isTagLine ('<' :: s) then some none else none
  | _ => none

/-- Reads a leaf block that is indented by `indent` columns, less than four. -/
def leafAt (r : Reading) (indent : Nat) (c : Cursor) : Reading × Cursor :=
  let x := r.nesting
  match markupHere? c.rest with
  | some stop =>
    let (e, next) := x.markup c indent stop
    (r.append e, next)
  | none =>
    match thematicBreak? c.rest with
    | some n => (r.append (.rule c.offset (c.offset + n)), c.drop n)
    | none =>
      match headingLevel? c.rest with
      | some level =>
        let (e, next) := x.numberSignHeading c level
        (r.append e, next)
      | none =>
        match fence? c.rest with
        | some (mark, length) =>
          let (e, next) := x.fencedCode c indent mark length
          (r.append e, next)
        | none => r.definitionsAndParagraph (c.rest.length + 1) c

/-- Reads a leaf block, or a blank line. -/
def leaf (r : Reading) (last : Nat) (l : LineCursor) : Reading × Cursor :=
  match blankLine? l.rest with
  | some n => (r.blankLine, l.place.drop n)
  | none =>
    let r := r.finishList last
    let (indent, m) := l.indent 4
    if indent == 4 then
      let (e, blank, next) := r.nesting.indentedCode m
      ({ r.append e with blankBefore := blank }, next)
    else r.leafAt indent m.place

/-! ## Texts -/

/-- Reads the block that begins in a line: also the place of the line after it. -/
def line (r : Reading) (c : Cursor) : Reading × Cursor :=
  let (n, l) := Container.continueAll (.start c) r.trunk.containers
  let r := popTo n c.offset r.trunk.opened.length r
  match openContainers (lineLength l.rest + 1) r c.offset l with
  | .done r next => (r, next)
  | .leaf r last l => r.leaf last l

/-- Reads a text to its end. Every line takes at least one character, so the number of characters
bounds that of lines. -/
def run : Nat → Reading → Cursor → Reading
  | 0, r, c => popTo 0 c.offset r.trunk.opened.length r
  | bound + 1, r, c =>
    if c.atEnd then popTo 0 c.offset r.trunk.opened.length r
    else
      let (r, next) := r.line c
      run bound r next

end Reading

/-- The block structure of a text: its elements, its definitions in source order, and the keys of
its footnotes. -/
def readBlocks (d : Dialect) (text : List Char) : List Element × List Definition × List (List Char) :=
  let r := Reading.run (text.length + 1) { dialect := d } ⟨0, text⟩
  (r.trunk.finished.reverse, r.definitions.reverse, r.footnotes)

end MarkdownTree.Markdown
