import MarkdownTree.Markdown.BlockStart
import MarkdownTree.Markdown.Dialect
import MarkdownTree.Markdown.HtmlTag
import MarkdownTree.Markdown.Label

/-!
# Paragraphs and their next line

A paragraph goes on to the next line even if the containers around it do not, unless a block begins
there that may interrupt a paragraph.

* `Nesting` — the containers around a line
* `Nesting.interrupts` — whether a block begins that ends a paragraph
* `Nesting.nextLine?` — the next line of a paragraph
-/

namespace MarkdownTree.Markdown

/-- The containers around a line, outermost first, and the dialect. -/
structure Nesting where
  dialect : Dialect
  containers : List Container
deriving Repr, Inhabited

/-- The number of bars without a backslash before them on a line, and what follows the last of
them. -/
def countBars (escaped : Bool) (bars : Nat) (afterLast : List Char) : List Char → Nat × List Char
  | [] => (bars, afterLast)
  | c :: s =>
    if isEol c then (bars, afterLast)
    else if c == '\\' then countBars true bars afterLast s
    else if c == '|' && !escaped then countBars false (bars + 1) s s
    else countBars false bars afterLast s

/-- Whether the label of a footnote definition stands here. -/
def footnoteLabel? : List Char → Option (Nat × List Char)
  | '[' :: '^' :: s =>
    (Label.read? false Label.oneLine s).bind fun (n, label) =>
      match s.drop n with
      | ':' :: _ => some (n + 3, label)
      | _ => none
  | _ => none

/-- Whether a block begins that ends a paragraph, tables left aside. -/
def interruptsBySelf (d : Dialect) (allContinue inTable : Bool) (s : List Char) : Bool :=
  (eol? s).isSome || (thematicBreak? s).isSome || (headingLevel? s).isSome || (fence? s).isSome ||
    (afterChar? '>' s).isSome || interruptingItem allContinue inTable s ||
    ((afterChar? '<' s).map startsHtmlBlock).getD false ||
    (d.has .footnotes && (footnoteLabel? s).isSome)

namespace Nesting

/-- The start of a line: whether all containers go on, and what lies behind their margin. -/
def margin (x : Nesting) (c : Cursor) : Bool × LineCursor :=
  Container.continues (.start c) x.containers

/-- The alignments of a table with the header line `s`, which has the given number of bars. The
delimiter row is the next line; also what follows it. -/
def table? (x : Nesting) (line : Cursor) (bars : Nat) (afterLast : List Char) :
    Option (List Alignment × Cursor) :=
  let n := countWhile (!isEol ·) line.rest
  let lineEnd := line.drop n
  if lineEnd.atEnd then none
  else
    let (allContinue, l) := x.margin (lineEnd.drop ((eol? lineEnd.rest).getD 1))
    match delimiterRow? l.rest with
    | some (length, alignments) =>
      if allContinue && alignments.length == headerColumns line.rest bars afterLast then
        some (alignments, l.place.drop length)
      else none
    | none => none

/-- Whether a table begins here. -/
def startsTable (x : Nesting) (s : List Char) : Bool :=
  let (bars, afterLast) := countBars false 0 (s.drop 1) s
  (x.table? ⟨0, s⟩ bars afterLast).isSome

/-- Whether a block begins that ends a paragraph. -/
def interrupts (x : Nesting) (allContinue : Bool) (s : List Char) : Bool :=
  interruptsBySelf x.dialect allContinue false s ||
    (x.dialect.has .tables && allContinue && x.startsTable s)

/-- The next line of a paragraph, if the paragraph goes on there. Blanks are not skipped yet. -/
def nextLine? (x : Nesting) (c : Cursor) : Option LineCursor :=
  let (allContinue, l) := x.margin c
  let (deep, l) := l.skip 4
  if !deep && x.interrupts allContinue l.rest then none else some l

/-- The next line of a paragraph, if the paragraph goes on there and the line is no underline that
makes it a heading. -/
def nextPlainLine? (x : Nesting) (c : Cursor) : Option LineCursor :=
  let (allContinue, l) := x.margin c
  let (deep, l) := l.skip 4
  if !deep && (x.interrupts allContinue l.rest || (allContinue && (underline? l.rest).isSome)) then
    none
  else some l

end Nesting

end MarkdownTree.Markdown
