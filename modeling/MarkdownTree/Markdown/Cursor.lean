import MarkdownTree.Markdown.Scan

/-!
# Cursors

A cursor is a place in the source: what lies ahead, and how many characters come before. A line
cursor reads the start of a line, where a tab reaches to the next tab stop and may be used up in
part; the columns left over are kept as `spare`.
-/

namespace MarkdownTree.Markdown

/-- A place in the source. -/
structure Cursor where
  offset : Nat
  rest : List Char
deriving Repr, Inhabited

namespace Cursor

/-- The place `n` characters on. -/
def drop (c : Cursor) (n : Nat) : Cursor :=
  ⟨c.offset + n, c.rest.drop n⟩

/-- The text from a place up to a later offset. -/
def upTo (c : Cursor) (offset : Nat) : List Char :=
  c.rest.take (offset - c.offset)

/-- The place at a later offset. -/
def dropTo (c : Cursor) (offset : Nat) : Cursor :=
  c.drop (offset - c.offset)

/-- Whether nothing lies ahead. -/
def atEnd (c : Cursor) : Bool :=
  c.rest.isEmpty

end Cursor

/-- A place near the start of a line. `sinceTab` counts the characters after the last tab, and
`spare` the columns of a tab that are not used up. -/
structure LineCursor where
  place : Cursor
  sinceTab : Nat
  spare : Nat
deriving Repr, Inhabited

namespace LineCursor

/-- The start of a line. -/
def start (c : Cursor) : LineCursor :=
  ⟨c, 0, 0⟩

/-- What lies ahead. -/
def rest (l : LineCursor) : List Char :=
  l.place.rest

/-- Goes on by characters that are no blanks. -/
def drop (l : LineCursor) (n : Nat) : LineCursor :=
  { l with place := l.place.drop n, sinceTab := l.sinceTab + n }

/-- Goes on by at most `columns` columns of blanks; also the number of columns missing. -/
def columnsFrom (columns offset sinceTab : Nat) : List Char → Nat × LineCursor
  | ' ' :: s =>
    if columns == 0 then (0, ⟨⟨offset, ' ' :: s⟩, sinceTab, 0⟩)
    else columnsFrom (columns - 1) (offset + 1) (sinceTab + 1) s
  | '\t' :: s =>
    let width := 4 - sinceTab % 4
    if columns == 0 then (0, ⟨⟨offset, '\t' :: s⟩, sinceTab, 0⟩)
    else if columns ≤ width then (0, ⟨⟨offset + 1, s⟩, 0, width - columns⟩)
    else columnsFrom (columns - width) (offset + 1) 0 s
  | s => (columns, ⟨⟨offset, s⟩, sinceTab, 0⟩)

/-- Goes on by at most `columns` columns of blanks; also the number of columns missing. -/
def columns (l : LineCursor) (columns : Nat) : Nat × LineCursor :=
  if columns ≤ l.spare then (0, { l with spare := l.spare - columns })
  else columnsFrom (columns - l.spare) l.place.offset l.sinceTab l.rest

/-- Goes on by at most `n` columns of blanks; also how many there were. -/
def indent (l : LineCursor) (n : Nat) : Nat × LineCursor :=
  let (missing, l) := l.columns n
  (n - missing, l)

/-- Goes on by at most `n` columns of blanks; also whether all of them were there. -/
def skip (l : LineCursor) (n : Nat) : Bool × LineCursor :=
  let (missing, l) := l.columns n
  (missing == 0, l)

/-- Goes on past all blanks and tabs. -/
def skipAll (l : LineCursor) : LineCursor :=
  { l.drop (countWhile (fun c => c == ' ' || c == '\t') l.rest) with spare := 0 }

/-- Whether the line ends here. -/
def atEol (l : LineCursor) : Bool :=
  match l.rest with
  | [] => true
  | c :: _ => isEol c

/-- Goes on past the mark of a quote and one blank behind it. -/
def quoteMark? (l : LineCursor) : Option LineCursor :=
  match l.rest with
  | '>' :: _ => some ((l.drop 1).skip 1).2
  | _ => none

end LineCursor

/-- A block that holds other blocks and asks for something at the start of each line. -/
inductive Container
  /-- Each line has a mark. -/
  | quote
  /-- Lists ask for nothing themselves. `marker` tells them apart. -/
  | list (tight : Bool) (marker : Char) (start : Nat)
  /-- Each line is indented as much as the content of the first. -/
  | item (indent : Nat)
  /-- Each line is indented by four columns. -/
  | footnote (label : List Char)
deriving DecidableEq, Repr, Inhabited

namespace Container

/-- Reads what the container asks for. Blank lines need no indentation. -/
def continue? (l : LineCursor) : Container → Option LineCursor
  | .quote => (l.indent 3).2.quoteMark?
  | .list _ _ _ => some l
  | .item indent =>
    let (all, l) := l.skip indent
    if all || l.atEol then some l else none
  | .footnote _ =>
    let (all, l) := l.skip 4
    if all || l.atEol then some l else none

/-- Reads what a chain of containers asks for, outermost first: how many of them go on. -/
def continueAll (l : LineCursor) : List Container → Nat × LineCursor
  | [] => (0, l)
  | c :: cs =>
    match c.continue? l with
    | some l =>
      let (n, l) := continueAll l cs
      (n + 1, l)
    | none => (0, l)

/-- Reads what a chain of containers asks for: whether all of them go on. -/
def continues (l : LineCursor) (cs : List Container) : Bool × LineCursor :=
  let (n, l) := continueAll l cs
  (n == cs.length, l)

/-- The number of characters that a chain of containers takes from the start of a line. -/
def margin (cs : List Container) (s : List Char) : Nat :=
  (continueAll (.start ⟨0, s⟩) cs).2.place.offset

end Container

end MarkdownTree.Markdown
