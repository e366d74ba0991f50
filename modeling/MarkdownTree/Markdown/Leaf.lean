import MarkdownTree.Markdown.Element
import MarkdownTree.Markdown.Interrupt

/-!
# Leaf blocks

Blocks that hold text. Each is read from its first character on, and the reader gives the block and
the place where the line after it begins.

* `Nesting.indentedCode`, `Nesting.fencedCode` — code
* `Nesting.markup` — HTML
* `Nesting.numberSignHeading`, `Nesting.paragraph` — headings and paragraphs
* `Nesting.table` — tables
-/

namespace MarkdownTree.Markdown.Nesting

/-- The text of a place up to an offset, as inline content with lines that begin at the given
offsets. -/
def tokens (x : Nesting) (inTable : Bool) (start : Cursor) (last : Nat) (starts : List Nat) :
    List Token :=
  let text := start.upTo last
  Token.ofLines ⟨x.dialect.has .strikethrough, inTable, (start.rest.drop text.length).head?⟩
    ⟨start.offset, text⟩ starts

/-! ## Code and HTML -/

/-- A line of a literal after `spare` columns of blanks. A carriage return before the last
character is left out. -/
def literalLine (spare : Nat) (line : List Char) : List Char :=
  let line := match line.reverse with
    | c :: '\r' :: back => (c :: back).reverse
    | _ => line
  List.replicate spare ' ' ++ line

/-- Reads the lines of indented code. `lines` are the lines so far, newest first, and `blank` those
of them that are not known to belong to the code, because all of them are blank. -/
def indentedLines (x : Nesting) : Nat → List (List Char) → List (List Char) → Nat → LineCursor →
    List Char × Bool × Nat × Cursor
  | 0, lines, blank, last, l => (lines.reverse.flatten, !blank.isEmpty, last, l.place)
  | bound + 1, lines, blank, last, l =>
    let n := lineLength l.rest
    let next := l.place.drop n
    let line := literalLine l.spare (l.rest.take n)
    let (lines, blank, last) :=
      if isBlankLine l.rest then (lines, line :: blank, last)
      else (line :: (blank ++ lines), [], next.offset)
    let (allContinue, m) := x.margin next
    let (deep, m) := m.skip 4
    if allContinue && (deep || m.atEol) && !m.place.atEnd then
      indentedLines x bound lines blank last m
    else (lines.reverse.flatten, !blank.isEmpty, last, next)

/-- Reads indented code after its indentation: also whether blank lines follow it. -/
def indentedCode (x : Nesting) (l : LineCursor) : Element × Bool × Cursor :=
  let (text, blank, last, next) := x.indentedLines (l.rest.length + 1) [] [] l.place.offset l
  (.literal .indented text l.place.offset last, blank, next)

/-- Reads the lines of a fenced code block. Lines are newest first. -/
def fencedLines (x : Nesting) (mark : Char) (length indent : Nat) :
    Nat → List (List Char) → Cursor → List (List Char) × Cursor
  | 0, lines, c => (lines, c)
  | bound + 1, lines, c =>
    let (allContinue, l) := x.margin c
    if !allContinue then (lines, c)
    else
      let l := (l.skip indent).2
      let (deep, close) := l.skip (4 - indent)
      match if deep then none else closingFence? mark length close.rest with
      | some n =>
        let c := close.place.drop n
        (lines, c.drop ((blankLine? c.rest).getD 0))
      | none =>
        let n := lineLength l.rest
        fencedLines x mark length indent bound (literalLine l.spare (l.rest.take n) :: lines)
          (l.place.drop n)

/-- Reads a fenced code block. -/
def fencedCode (x : Nesting) (start : Cursor) (indent : Nat) (mark : Char) (length : Nat) :
    Element × Cursor :=
  let line := start.drop length
  let n := lineLength line.rest
  let info := (line.rest.take n).dropWhile isSpace
  let info := (info.reverse.dropWhile isAsciiBlank).reverse
  let next := line.drop n
  let (lines, stop) := x.fencedLines mark length indent (next.rest.length + 1) [] next
  (.literal (.fenced (String.ofList (unescape false info))) lines.reverse.flatten start.offset
    stop.offset, stop)

/-- Reads the lines of an HTML block. It ends after the line with the text `stop`, or else before a
blank line. Lines are newest first. -/
def markupLines (x : Nesting) (stop : Option (List Char)) :
    Nat → List (List Char) → LineCursor → List (List Char) × Nat × Cursor
  | 0, lines, l => (lines, l.place.offset, l.place)
  | bound + 1, lines, l =>
    let n := lineLength l.rest
    let line := l.rest.take n
    let lines := literalLine l.spare line :: lines
    let next := l.place.drop n
    let (allContinue, m) := x.margin next
    let done := match stop with
      | some text => occursIn text line
      | none => isBlankLine m.rest
    if !allContinue || done then (lines, next.offset, next)
    else if m.place.atEnd then (lines, m.place.offset, next)
    else markupLines x stop bound lines m

/-- Reads an HTML block that is indented by `indent` columns. -/
def markup (x : Nesting) (start : Cursor) (indent : Nat) (stop : Option (List Char)) :
    Element × Cursor :=
  let (lines, last, next) := x.markupLines stop (start.rest.length + 1) [] ⟨start, 0, indent⟩
  (.literal .html lines.reverse.flatten start.offset last, next)

/-! ## Headings -/

/-- Reads a heading that begins with number signs. -/
def numberSignHeading (x : Nesting) (start : Cursor) (level : Nat) : Element × Cursor :=
  let line := start.drop level
  let text := line.drop (spaces line.rest)
  let next := text.drop (lineLength text.rest)
  let tokens :=
    match eol? line.rest with
    | some _ => []
    | none =>
      Token.trimHeading ⟨text.offset, text.upTo next.offset⟩
        (x.tokens false text next.offset [text.offset])
  let next := match eol? line.rest with
    | some n => line.drop n
    | none => next
  (.heading level start.offset next.offset ⟨tokens, x.containers, false⟩, next)

/-! ## Tables -/

/-- The length of a cell. A backslash before punctuation, a bar among them, takes it along. -/
def cellLength : List Char → Nat
  | [] => 0
  | '\\' :: '\\' :: '|' :: s => cellLength s + 3
  | '\\' :: c :: s => if isAsciiPunctuation c then cellLength s + 2 else cellLength (c :: s) + 1
  | c :: s => if c == '|' || isEol c then 0 else cellLength s + 1

/-- Reads the cells of a row: also the place of the next line. The bound is more than the number of
characters ahead in the line. -/
def cells (x : Nesting) : Nat → Cursor → List Passage × Cursor
  | 0, c => ([], c)
  | bound + 1, c =>
    let c := match c.rest with
      | '|' :: _ => c.drop 1
      | _ => c
    let c := c.drop (spaces c.rest)
    match eol? c.rest with
    | some n => ([], c.drop n)
    | none =>
      let stop := c.drop (cellLength c.rest)
      let (row, next) := cells x bound stop
      (⟨x.tokens true c stop.offset [c.offset], x.containers, true⟩ :: row, next)

/-- Gives a row a certain number of cells. -/
def fitRow (x : Nesting) (columns : Nat) (row : List Passage) : List Passage :=
  row.take columns ++ List.replicate (columns - row.length) ⟨[], x.containers, true⟩

/-- Reads the rows of a table below its head. Each line is a row, up to one that is no row of its
own or where another block begins. Rows are newest first. -/
def rows (x : Nesting) (columns : Nat) : Nat → List (List Passage) → Cursor →
    List (List Passage) × Cursor
  | 0, table, c => (table, c)
  | bound + 1, table, c =>
    let (allContinue, l) := x.margin c
    let l := l.skipAll
    if !allContinue || interruptsBySelf x.dialect allContinue true l.rest then (table, c)
    else
      match x.cells (lineLength l.rest + 1) l.place with
      | ([], _) => (table, c)
      | (row, next) => rows x columns bound (x.fitRow columns row :: table) next

/-- Reads a table with the header line `start`. `next` is the place after the delimiter row. -/
def table (x : Nesting) (alignments : List Alignment) (start next : Cursor) : Element × Cursor :=
  let columns := alignments.length
  let (head, _) := x.cells (lineLength start.rest + 1) start
  let (table, stop) := x.rows columns (next.rest.length + 1) [x.fitRow columns head] next
  (.table alignments start.offset stop.offset table.reverse, stop)

/-! ## Paragraphs -/

/-- The table that begins with the first line of a paragraph. -/
def tableHere? (x : Nesting) (line : Cursor) : Option (List Alignment × Cursor) :=
  let (bars, afterLast) := countBars false 0 [] line.rest
  if x.dialect.has .tables && bars != 0 then x.table? line bars afterLast else none

/-- Reads the lines of a paragraph: the offsets where their contents begin, newest first, the place
of the line after it, and the level if the paragraph is a heading. -/
def paragraphLines (x : Nesting) : Nat → List Nat → Cursor → List Nat × Cursor × Option Nat
  | 0, starts, line => (starts, line, none)
  | bound + 1, starts, line =>
    let starts := line.offset :: starts
    let lineEnd := line.drop (countWhile (!isEol ·) line.rest)
    let next := lineEnd.drop ((eol? lineEnd.rest).getD 0)
    let (allContinue, l) := x.margin next
    let (deep, l) := l.skip 4
    match if deep || !allContinue then none else underline? l.rest with
    | some (n, level) => (starts, l.place.drop n, some level)
    | none =>
      if !deep && x.interrupts allContinue l.rest then (starts, next, none)
      else
        let l := l.skipAll
        if l.atEol then (starts, next, none) else paragraphLines x bound starts l.place

/-- Reads a paragraph, which may turn out to be a heading or a table. `task` is the box of a task
before it. -/
def paragraph (x : Nesting) (start : Cursor) (task : Option Token) : Element × Cursor :=
  match x.tableHere? start with
  | some (alignments, next) => x.table alignments start next
  | none =>
    let (starts, next, level?) := x.paragraphLines (start.rest.length + 1) [] start
    let tokens := task.toList ++ x.tokens false start next.offset starts.reverse
    let content : Passage := ⟨tokens, x.containers, false⟩
    match level? with
    | some level => (.heading level start.offset next.offset content, next)
    | none => (.paragraph false start.offset next.offset content, next)

end MarkdownTree.Markdown.Nesting
