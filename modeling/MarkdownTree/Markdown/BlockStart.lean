import MarkdownTree.Markdown.Cursor
import MarkdownTree.Node.Kind

/-!
# How blocks start

What the first characters of a line say about the block that begins there. Indentation has been
read before.

* `thematicBreak?`, `headingLevel?`, `fence?`, `underline?`, `delimiterRow?` — leaf blocks
* `ListMarker`, `LineCursor.listMarker?`, `taskMarker?`, `quoteLabel?` — containers
-/

namespace MarkdownTree.Markdown

/-! ## Leaf blocks -/

/-- The length of a thematic break: three or more equal marks and blanks, up to and with the line
end. -/
def thematicBreak? : List Char → Option Nat
  | c :: s =>
    if c == '*' || c == '-' || c == '_' then
      let line := (c :: s).takeWhile (!isEol ·)
      if line.all (fun d => d == c || d == ' ' || d == '\t') && 3 ≤ line.count c then
        some (line.length + (eol? ((c :: s).drop line.length)).getD 0)
      else none
    else none
  | [] => none

/-- The level of a heading that begins with number signs. -/
def headingLevel? (s : List Char) : Option Nat :=
  let n := runLength '#' s
  if n == 0 || n > 6 then none
  else
    match s.drop n with
    | [] => some n
    | c :: _ => if isAsciiBlank c then some n else none

/-- The character and length of a code fence. A fence of backticks has no backtick behind it. -/
def fence? : List Char → Option (Char × Nat)
  | c :: s =>
    if c == '`' || c == '~' then
      let n := runLength c s + 1
      if n < 3 then none
      else if c == '`' && ((s.drop (n - 1)).takeWhile (· != '\n')).contains '`' then none
      else some (c, n)
    else none
  | [] => none

/-- The number of characters of a closing fence, without the line end. At the end of the source a
fence closes by itself. -/
def closingFence? (mark : Char) (length : Nat) (s : List Char) : Option Nat :=
  if s.isEmpty then some 0
  else
    let n := runLength mark s
    if n < length then none
    else
      let n := n + runLength ' ' (s.drop n)
      (eol? (s.drop n)).map fun _ => n

/-- The underline of a heading: its length with the line end, and the level of the heading. -/
def underline? : List Char → Option (Nat × Nat)
  | c :: s =>
    let level? := if c == '=' then some 1 else if c == '-' then some 2 else none
    level?.bind fun level =>
      let n := runLength c s + 1
      (blankLine? (s.drop (n - 1))).map fun blanks => (n + blanks, level)
  | [] => none

/-! ## Tables -/

/-- The state of reading a delimiter row. `cell` is the alignment so far of the current column,
`fresh` says that nothing of the column has been read, and `hyphen` that the column has a hyphen.
Finished columns are newest first. -/
structure DelimiterRow where
  columns : List Alignment := []
  cell : Alignment := .none
  fresh : Bool := true
  hyphen : Bool := false
  anyHyphen : Bool := false
  pipe : Bool := false
deriving Repr, Inhabited

namespace DelimiterRow

/-- What a colon says about the alignment of a column. -/
def colon (r : DelimiterRow) : DelimiterRow :=
  let cell := match r.fresh, r.cell with
    | true, .none => .left
    | false, .left => .center
    | false, .none => .right
    | _, cell => cell
  { r with cell, fresh := false }

/-- Reads the columns; also the number of characters with the line end. -/
def scan (used : Nat) : DelimiterRow → List Char → Option (DelimiterRow × Nat)
  | r, [] => some (r, used)
  | r, c :: s =>
    if isEol c then some (r, used + (eol? (c :: s)).getD 0)
    else if c == ' ' then scan (used + 1) r s
    else if c == ':' then scan (used + 1) r.colon s
    else if c == '-' then
      scan (used + 1) { r with fresh := false, hyphen := true, anyHyphen := true } s
    else if c == '|' then
      if r.hyphen then
        scan (used + 1)
          { columns := r.cell :: r.columns, anyHyphen := r.anyHyphen, pipe := true } s
      else none
    else none

end DelimiterRow

/-- The delimiter row of a table: its length with the line end, and the alignments. -/
def delimiterRow? (s : List Char) : Option (Nat × List Alignment) :=
  let (indent, l) := (LineCursor.start ⟨0, s⟩).indent 4
  if indent > 3 then none
  else
    let (lead, t) := match l.rest with
      | '|' :: t => (1, t)
      | t => (0, t)
    match DelimiterRow.scan (l.place.offset + lead) { pipe := lead == 1 } t with
    | some (r, used) =>
      if r.pipe && r.anyHyphen && !l.rest.isEmpty then
        some (used, (if r.fresh then r.columns else r.cell :: r.columns).reverse)
      else none
    | none => none

/-- The number of columns of a header line with the given number of bars. `afterLast` is what
follows the last of them. -/
def headerColumns (s : List Char) (bars : Nat) (afterLast : List Char) : Nat :=
  let bars := match s.drop (spaces s) with
    | '|' :: _ => bars - 1
    | _ => bars
  if isBlankLine afterLast then bars else bars + 1

/-! ## Containers -/

/-- A list marker. `mark` is the bullet, or the character after the number. -/
structure ListMarker where
  mark : Char
  number : Nat
deriving DecidableEq, Repr, Inhabited

/-- Whether the list has bullets. -/
def ListMarker.isBullet (m : ListMarker) : Bool :=
  m.mark == '-' || m.mark == '+' || m.mark == '*'

/-- A list marker and its length. A number has at most nine digits. -/
def listMarker? : List Char → Option (ListMarker × Nat)
  | [] => none
  | c :: s =>
    if c == '-' || c == '+' || c == '*' then some (⟨c, 0⟩, 1)
    else
      let (digits, n) := decimal 9 (c :: s)
      match (c :: s).drop digits with
      | d :: _ =>
        if digits > 0 && (d == '.' || d == ')') then some (⟨d, n⟩, digits + 1) else none
      | [] => none

/-- Whether a list item begins here that may interrupt a paragraph. Where all containers go on, it
must have content, and a number must be 1, unless the paragraph is the row of a table. -/
def interruptingItem (allContinue inTable : Bool) (s : List Char) : Bool :=
  match listMarker? s with
  | some (m, n) =>
    let t := s.drop n
    let separated := match t with
      | [] => true
      | c :: _ => c == ' ' || c == '\t' || isEol c
    separated &&
      (!allContinue || inTable || ((m.isBullet || m.number == 1) && !isBlankLine t))
  | none => false

namespace LineCursor

/-- Goes on past a list marker and the blanks behind it that do not belong to the content. The
first result is how far the content of the item is indented. -/
def listMarker? (l : LineCursor) (indent : Nat) : Option (ListMarker × Nat × LineCursor) :=
  match Markdown.listMarker? l.rest with
  | some (m, n) =>
    if m.isBullet && (thematicBreak? l.rest).isSome then none
    else
      let (separated, after) := (l.drop n).skip 1
      if separated || after.atEol then
        let indent := indent + n + 1
        if isBlankLine after.rest then some (m, indent, after)
        else
          let (more, content) := after.indent 4
          if more < 4 then some (m, indent + more, content) else some (m, indent, after)
      else none
  | none => none

/-- Goes on past the box of a task, which a blank follows; also whether it is ticked. -/
def taskMarker? (l : LineCursor) : Option (Bool × LineCursor) :=
  let l := (l.indent 3).2
  match l.rest with
  | '[' :: c :: ']' :: d :: _ =>
    if !isSpace d then none
    else if isSpace c then some (false, l.drop 3)
    else if c == 'x' || c == 'X' then some (true, l.drop 3)
    else none
  | _ => none

end LineCursor

/-- The words that label a quote. -/
def quoteLabels : List String :=
  ["note", "tip", "important", "warning", "caution"]

/-- The length of a line that holds nothing but the label of a quote. -/
def quoteLabel? : List Char → Option Nat
  | '[' :: '!' :: s =>
    let word := s.takeWhile (· != ']')
    if quoteLabels.contains (String.ofList (word.map Char.toLower)) then
      match s.drop word.length with
      | ']' :: t => (blankLine? t).map fun n => word.length + 3 + n
      | _ => none
    else none
  | _ => none

end MarkdownTree.Markdown
