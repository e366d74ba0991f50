import MarkdownTree.Markdown.Destination
import MarkdownTree.Markdown.Dialect
import MarkdownTree.Markdown.Element
import MarkdownTree.Markdown.HtmlTag
import MarkdownTree.Markdown.Label

/-!
# Links and other inline leaves

The first reading of inline content goes over the tokens from left to right and finds code, HTML,
autolinks, and the links and images that brackets make. What is left are runs of delimiters.

An opening bracket waits for its closing bracket. That one asks in turn whether a destination in
parentheses follows, whether a label follows, and whether the brackets hold a label themselves. A
link holds no other link, so a link makes the brackets around it text.

* `Piece` — what inline content is made of
* `Passage.pieces` — reads the tokens of a passage
-/

namespace MarkdownTree.Markdown

/-- What links and footnotes may refer to: definitions, and the keys of the footnotes. -/
structure Targets where
  dialect : Dialect
  definitions : List Definition
  footnotes : List (List Char)
deriving Repr, Inhabited

namespace Targets

/-- The definition with a label. -/
def definition? (t : Targets) (label : List Char) : Option Definition :=
  t.definitions.find? fun d => Label.key d.label.toList == Label.key label

/-- Whether a footnote is defined. -/
def hasFootnote (t : Targets) (label : List Char) : Bool :=
  t.footnotes.contains (Label.key label)

end Targets

/-- A part of inline content. A run of delimiters is not yet known to be emphasis or text. -/
inductive Piece
  | leaf (e : Located)
  | lineBreak (backslash : Bool) (first last : Nat)
  | run (mark : Char) (opens closes : Bool) (first length : Nat)
  | link (tag : Tag) (first last : Nat) (content : List Piece)
deriving Repr, Inhabited

/-- Plain text. -/
def Piece.text (text : List Char) (first last : Nat) : Piece :=
  .leaf ⟨.text (String.ofList text), first, last⟩

/-- The piece that a token is if nothing is made of it. -/
def Token.piece (t : Token) : Piece :=
  match t.kind with
  | .reference text => .leaf ⟨.text text, t.first, t.last⟩
  | .softBreak => .leaf ⟨.softBreak, t.first, t.last⟩
  | .hardBreak backslash => .lineBreak backslash t.first t.last
  | .delimiters mark opens closes => .run mark opens closes t.first t.length
  | .task checked => .leaf ⟨.taskMarker checked, t.first, t.last⟩
  | _ => .text t.text t.first t.last

/-- An opening bracket that waits. `place` is where it is, past the exclamation mark of an image. A
bracket that is not active opens no link any more. Its content is newest first. -/
structure Waiting where
  image : Bool
  active : Bool
  first : Nat
  place : Cursor
  content : List Piece
deriving Repr, Inhabited

namespace Waiting

/-- The bracket as text, and its content; newest first. -/
def asText (w : Waiting) : List Piece :=
  let text := if w.image then ['!', '['] else ['[']
  w.content ++ [.text text w.first (w.place.offset + 1)]

end Waiting

/-- The pieces read so far, newest first: those after each waiting bracket, the innermost bracket
first, and those before all of them. -/
structure Pieces where
  waiting : List Waiting := []
  before : List Piece := []
deriving Repr, Inhabited

namespace Pieces

/-- Adds pieces, newest first. -/
def add (p : Pieces) (new : List Piece) : Pieces :=
  match p.waiting with
  | w :: ws => { p with waiting := { w with content := new ++ w.content } :: ws }
  | [] => { p with before := new ++ p.before }

/-- Lets an opening bracket wait. -/
def wait (p : Pieces) (image : Bool) (t : Token) : Pieces :=
  let place := if image then t.place.drop 1 else t.place
  { p with waiting := ⟨image, true, t.first, place, []⟩ :: p.waiting }

/-- Makes the waiting brackets text. -/
def settle (p : Pieces) : List Piece :=
  (p.waiting.map Waiting.asText).flatten ++ p.before

/-- Makes the waiting brackets of links inactive. -/
def disableLinks (p : Pieces) : Pieces :=
  { p with waiting := p.waiting.map fun w => { w with active := w.image && w.active } }

end Pieces

/-! ## Code -/

/-- The text of code: line ends are blanks, margins are left out. The number of characters left is
the first argument, that of characters to leave out the second. -/
def codeText (p : Passage) : Nat → Nat → List Char → List Char
  | 0, _, _ => []
  | _, _, [] => []
  | n + 1, skip + 1, _ :: s => codeText p n skip s
  | n + 1, 0, c :: s =>
    if isEol c then ' ' :: codeText p n (Container.margin p.containers s) s
    else if p.inTable && c == '\\' && s.head? == some '|' then '|' :: codeText p n 1 s
    else c :: codeText p n 0 s

/-- Leaves out a blank at each end, if there is one at both and not everything is blank. -/
def trimCode (s : List Char) : List Char :=
  if s.head? == some ' ' && s.getLast? == some ' ' && !s.all (· == ' ') then
    (s.drop 1).dropLast
  else s

/-- The tokens from backticks of a certain number on, these included. -/
def fromBackticks? (count : Nat) : List Token → Option (Token × List Token)
  | [] => none
  | t :: ts =>
    match t.kind with
    | .backticks _ => if t.length == count then some (t, ts) else fromBackticks? count ts
    | _ => fromBackticks? count ts

/-- Reads code at its opening backticks: the pieces, newest first, and the tokens behind it. The
first of several backticks is text if a backslash stands before it. -/
def Passage.code (p : Passage) (t : Token) (escaped : Bool) (ts : List Token) :
    List Piece × List Token :=
  let count := if escaped then t.length - 1 else t.length
  match if count == 0 then none else fromBackticks? count ts with
  | some (close, rest) =>
    let start := t.after
    let text := trimCode (codeText p (close.first - start.offset) 0 start.rest)
    let first := if escaped then t.first + 1 else t.first
    let code : Piece := .leaf ⟨.code (String.ofList text), first, close.last⟩
    (if escaped then [code, .text ['`'] t.first first] else [code], rest)
  | none => ([t.piece], ts)

/-! ## Angles -/

/-- Reads an autolink or HTML at its angle: the piece, and the tokens behind it. An angle at the end
of the content is text. -/
def Passage.angle (p : Passage) (t : Token) (ts : List Token) : Piece × List Token :=
  if ts.isEmpty then (t.piece, ts)
  else
    let start := t.after
    match autolink? start.rest with
    | some n =>
      let uri := start.rest.take n
      let stop := start.offset + n
      (.link (.link (String.ofList uri) "") t.first (stop + 1) [.text uri start.offset stop],
        Token.dropTo (stop + 1) ts)
    | none =>
      match inlineHtml? (Container.margin p.containers) t.place.rest with
      | some (text, n) =>
        (.leaf ⟨.inlineHtml (String.ofList text), t.first, t.first + n⟩,
          Token.dropTo (t.first + n) ts)
      | none => (t.piece, ts)

/-! ## Brackets -/

/-- Skips blanks, and at most one line end with the margin after it. -/
def Passage.skipBlanks (p : Passage) (c : Cursor) : Cursor :=
  let c := c.drop (spaces c.rest)
  match c.rest with
  | [] => c
  | d :: _ =>
    if isEol d then
      let c := c.drop ((eol? c.rest).getD 1)
      let c := c.drop (Container.margin p.containers c.rest)
      c.drop (spaces c.rest)
    else c

/-- Reads the title of a link after its first mark: the text, and the place behind the last mark.
After a line end the title goes on with the next token. The text so far is in reverse. The bound is
more than the number of characters ahead. -/
def titleText? (inTable : Bool) (ts : List Token) (opening closing : Char) :
    Nat → List Char → Cursor → Option (List Char × Cursor)
  | 0, _, _ => none
  | bound + 1, text, c =>
    match c.rest with
    | [] => none
    | d :: s =>
      let more (text : List Char) (n : Nat) :=
        titleText? inTable ts opening closing bound text (c.drop n)
      if d == closing then some (text.reverse, c.drop 1)
      else if d == opening then none
      else if isEol d then
        match ts.dropWhile fun t => t.last ≤ c.offset + 1 with
        | t :: _ =>
          if t.first > c.offset then
            titleText? inTable ts opening closing bound ('\n' :: text) t.place
          else more (d :: text) 1
        | [] => more (d :: text) 1
      else if d == '&' then
        match characterReference? c.rest with
        | some (n, t) => more (t.toList.reverse ++ text) n
        | none => more (d :: text) 1
      else if d == '\\' then
        match s with
        | '\\' :: '|' :: _ => if inTable then more ('|' :: text) 3 else more ('\\' :: text) 2
        | e :: _ => if isAsciiPunctuation e then more (e :: text) 2 else more (d :: text) 1
        | [] => more (d :: text) 1
      else more (d :: text) 1

/-- Reads the title of a link. -/
def Passage.title? (p : Passage) (ts : List Token) (c : Cursor) : Option (List Char × Cursor) :=
  match c.rest with
  | d :: s =>
    if d == '"' || d == '\'' then titleText? p.inTable ts d d (s.length + 1) [] (c.drop 1)
    else if d == '(' then titleText? p.inTable ts d ')' (s.length + 1) [] (c.drop 1)
    else none
  | [] => none

/-- Reads a destination in parentheses, with a title if there is one, and the place behind them. -/
def Passage.target? (p : Passage) (ts : List Token) (c : Cursor) :
    Option (List Char × List Char × Cursor) :=
  match c.rest with
  | '(' :: _ =>
    let c := p.skipBlanks (c.drop 1)
    (destination? c.rest).bind fun (n, destination) =>
      let c := p.skipBlanks (c.drop n)
      let (title, c) := match p.title? ts c with
        | some (title, c) => (title, p.skipBlanks c)
        | none => ([], c)
      match c.rest with
      | ')' :: _ => some (unescape p.inTable destination, title, c.drop 1)
      | _ => none
  | _ => none

/-- What a label in brackets refers to. -/
inductive Reference
  | footnote (label : List Char)
  | definition (label : List Char)
deriving Repr, Inhabited

/-- Reads a label with its brackets: also its length. -/
def Passage.reference? (p : Passage) (d : Dialect) (s : List Char) : Option (Nat × Reference) :=
  match s with
  | '[' :: s =>
    let footnote? : Option (Nat × Reference) := match s with
      | '^' :: t =>
        if d.has .footnotes && t.head? != some ']' then
          (Label.read? p.inTable Label.oneLine t).map fun (n, l) => (n + 2, .footnote l)
        else none
      | _ => none
    footnote?.orElse fun _ =>
      let newLine (s : List Char) := some (Container.margin p.containers s)
      (Label.read? p.inTable newLine s).map fun (n, l) => (n + 1, .definition l)
  | _ => none

/-- What stands behind a closing bracket. -/
inductive Suffix
  /-- A label of its own. -/
  | full (label : List Char) (last : Nat)
  /-- Empty brackets; `rest` are the tokens behind them. -/
  | collapsed (rest : List Token)
  /-- Nothing that matters. -/
  | shortcut
deriving Inhabited

/-- What stands right behind a closing bracket. `ts` are the tokens behind it. -/
def Passage.suffix (p : Passage) (d : Dialect) (bracket : Token) : List Token → Suffix
  | [] => .shortcut
  | _ :: ts =>
    match bracket.after.rest with
    | '[' :: ']' :: _ => .collapsed (ts.drop 1)
    | s =>
      match p.reference? d s with
      | some (n, .definition label) => .full label (bracket.last + n)
      | _ => .shortcut

/-- Marks the token that ends behind an offset, which ends no reference: also the tokens behind
it. -/
def markClose (offset : Nat) : List Token → List Token × Option (List Token)
  | [] => ([], none)
  | t :: ts =>
    if t.last ≤ offset then
      let (us, rest) := markClose offset ts
      (t :: us, rest)
    else ({ t with kind := .close false } :: ts, some ts)

/-- Makes a link or image of a bracket. -/
def Waiting.link (w : Waiting) (destination title : String) (last : Nat) : Piece :=
  let tag := if w.image then Tag.image destination title else Tag.link destination title
  .link tag w.first last w.content.reverse

/-- The pieces after a link or image: a link makes the brackets around it inactive. -/
def Pieces.addLink (p : Pieces) (w : Waiting) (link : Piece) : Pieces :=
  let p := p.add [link]
  if w.image then p else p.disableLinks

/-- Reads a closing bracket that belongs to the bracket `w`: the pieces and the tokens behind it.
If nothing is made of the brackets, both are text. -/
def Passage.closeBracket (p : Passage) (targets : Targets) (pieces : Pieces) (w : Waiting)
    (t : Token) (refers : Bool) (ts : List Token) : Pieces × List Token :=
  let asText := pieces.add (t.piece :: w.asText)
  match p.target? ts t.after with
  | some (destination, title, c) =>
    (pieces.addLink w (w.link (String.ofList destination) (String.ofList title) c.offset),
      Token.dropTo c.offset ts)
  | none =>
    let refer (r : Option (Reference × Nat)) (rest ts : List Token) : Pieces × List Token :=
      match r with
      | some (.footnote label, last) =>
        if targets.hasFootnote label then
          let first := if w.image then w.first + 1 else w.first
          let note : Piece := .leaf ⟨.footnoteReference (String.ofList label), first, last⟩
          let new := if w.image then [note, .text ['!'] w.first first] else [note]
          ({ before := (pieces.add new).settle }, ts)
        else (asText, ts)
      | some (.definition label, last) =>
        match targets.definition? label with
        | some d => (pieces.addLink w (w.link d.destination (d.title.getD "") last), rest)
        | none => (asText, ts)
      | none => (asText, ts)
    let own : Option (Reference × Nat) :=
      let s := w.place.upTo t.last
      match p.reference? targets.dialect s with
      | some (n, r) => if n == s.length then some (r, t.last) else none
      | none => none
    match p.suffix targets.dialect t ts with
    | .full label last =>
      match markClose (last - 1) ts with
      | (ts, some rest) => refer (some (.definition label, last)) rest ts
      | (ts, none) => (asText, ts)
    | .collapsed rest => if refers then refer own rest ts else (asText, ts)
    | .shortcut => if refers then refer own ts ts else (asText, ts)

/-! ## Reading -/

/-- Reads a token: the pieces and the tokens behind it. -/
def Passage.step (p : Passage) (targets : Targets) (pieces : Pieces) (t : Token) (ts : List Token) :
    Pieces × List Token :=
  match t.kind with
  | .backticks escaped =>
    let (new, ts) := p.code t escaped ts
    (pieces.add new, ts)
  | .angle =>
    let (new, ts) := p.angle t ts
    (pieces.add [new], ts)
  | .linkOpen => (pieces.wait false t, ts)
  | .imageOpen => (pieces.wait true t, ts)
  | .close refers =>
    match pieces.waiting with
    | [] => (pieces.add [t.piece], ts)
    | w :: ws =>
      let pieces := { pieces with waiting := ws }
      if w.active then p.closeBracket targets pieces w t refers ts
      else (pieces.add (t.piece :: w.asText), ts)
  | _ => (pieces.add [t.piece], ts)

/-- Reads tokens, of which each step takes at least one. -/
def Passage.readTokens (p : Passage) (targets : Targets) : Nat → Pieces → List Token → Pieces
  | 0, pieces, _ => pieces
  | _, pieces, [] => pieces
  | bound + 1, pieces, t :: ts =>
    let (pieces, ts) := p.step targets pieces t ts
    readTokens p targets bound pieces ts

/-- The pieces of a passage. -/
def Passage.pieces (p : Passage) (targets : Targets) : List Piece :=
  (p.readTokens targets p.tokens.length {} p.tokens).settle.reverse

end MarkdownTree.Markdown
