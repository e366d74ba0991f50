import MarkdownTree.Markdown.CharacterReference
import MarkdownTree.Markdown.Cursor
import MarkdownTree.Text.Blank

/-!
# Tokens

The text of a block is cut into tokens: plain text, breaks between lines, and everything that may
turn out to be markup. Lines are cut one by one, from where their content begins; blanks at the end
of a line belong to no token.

* `Run.opens`, `Run.closes` — the two sides of a run of delimiters
* `Token.ofLines` — the tokens of a block
-/

namespace MarkdownTree.Markdown

/-- Kinds of tokens. A backslash before backticks is part of no token, but noted. A closing bracket
may be known not to end a reference. -/
inductive TokenKind
  | text
  | reference (text : String)
  | softBreak
  | hardBreak (backslash : Bool)
  | delimiters (mark : Char) (opens closes : Bool)
  | backticks (escaped : Bool)
  | angle
  | linkOpen
  | imageOpen
  | close (refers : Bool)
  | task (checked : Bool)
deriving DecidableEq, Repr, Inhabited

/-- A token. `place` is where it begins, with all that follows in the block, and `last` is the
offset where it ends. -/
structure Token where
  kind : TokenKind
  place : Cursor
  last : Nat
deriving Repr, Inhabited

namespace Token

/-- The offset where a token begins. -/
def first (t : Token) : Nat :=
  t.place.offset

/-- The text of a token. -/
def text (t : Token) : List Char :=
  t.place.upTo t.last

/-- The number of characters of a token. -/
def length (t : Token) : Nat :=
  t.last - t.first

/-- What follows a token in its block. -/
def after (t : Token) : Cursor :=
  t.place.dropTo t.last

/-- Leaves out what comes before an offset. -/
def dropBefore (offset : Nat) (t : Token) : Token :=
  { t with place := t.place.dropTo offset }

/-- A token that ends at an offset. A run of equal characters gets no longer by it. -/
def endAt (offset : Nat) (t : Token) : Token :=
  match t.kind with
  | .delimiters _ _ _ | .backticks _ => { t with last := min t.last offset }
  | _ => { t with last := offset }

/-- Leaves out the part of the tokens that comes before an offset. -/
def dropTo (offset : Nat) (ts : List Token) : List Token :=
  match ts.dropWhile fun t => t.last ≤ offset with
  | [] => []
  | t :: ts => t.dropBefore offset :: ts

end Token

/-! ## Runs of delimiters -/

/-- A run of delimiters and the characters beside it. There is none before at the start of a line,
and none after at the end of the source. -/
structure Run where
  mark : Char
  length : Nat
  before : Option Char
  after : Option Char
  inTable : Bool
deriving Repr, Inhabited

namespace Run

/-- Whether a run may open emphasis. -/
def opens (r : Run) : Bool :=
  match r.after with
  | none => false
  | some c =>
    if Text.isBlank c then false
    else
      match r.before with
      | none => true
      | some b =>
        if r.inTable && c == '|' then false
        else if r.mark == '*' && !isPunctuation c then true
        else if r.mark == '~' && r.length > 1 then true
        else if r.mark == '~' && b == '~' && !isPunctuation c then true
        else Text.isBlank b || isPunctuation b

/-- Whether a run may close emphasis. -/
def closes (r : Run) : Bool :=
  match r.before with
  | none => false
  | some b =>
    if Text.isBlank b then false
    else
      match r.after with
      | none => true
      | some c =>
        if r.inTable && c == '|' then true
        else if (r.mark == '*' || (r.mark == '~' && r.length > 1)) && !isPunctuation b then true
        else if r.mark == '~' && b == '~' then true
        else Text.isBlank c || isPunctuation c

end Run

/-! ## Lines -/

/-- How a block is cut into tokens. `after` is the character behind the block. -/
structure Cutting where
  strikethrough : Bool
  inTable : Bool
  after : Option Char
deriving Repr, Inhabited

/-- A line being cut. The text from `begun` to `now` is not part of a token yet. Tokens are newest
first. -/
structure Cutter where
  begun : Cursor
  now : Cursor
  before : Option Char
  tokens : List Token
deriving Repr, Inhabited

namespace Cutter

/-- Makes the text so far a token. -/
def flush (k : Cutter) : Cutter :=
  if k.begun.offset < k.now.offset then
    { k with begun := k.now, tokens := ⟨.text, k.begun, k.now.offset⟩ :: k.tokens }
  else { k with begun := k.now }

/-- Makes a token of the next `length` characters, after `skip` characters that are part of none. -/
def emit (k : Cutter) (kind : TokenKind) (skip length : Nat) : Cutter :=
  let k := k.flush
  let place := k.now.drop skip
  { k with begun := place.drop length,
           tokens := ⟨kind, place, place.offset + length⟩ :: k.tokens }

/-- Goes on by one character. -/
def advance (k : Cutter) : Cutter :=
  { k with now := k.now.drop 1, before := k.now.rest.head? }

/-- A backslash: also the number of characters it applies to. -/
def backslash (how : Cutting) (k : Cutter) (rest : List Char) : Cutter × Nat :=
  match rest with
  | c :: t =>
    if !isAsciiPunctuation c then (k, 1)
    else if c == '`' then
      let n := runLength '`' rest
      (k.emit (.backticks true) 1 n, n + 1)
    else if how.inTable && c == '\\' && t.head? == some '|' then
      ({ k.flush with begun := k.now.drop 2 }, 3)
    else ({ k.flush with begun := k.now.drop 1 }, 2)
  | [] => (k, 1)

/-- A run of delimiters: also its length. A run that neither opens nor closes is text, and so is
one of more than two tildes. -/
def delimiters (how : Cutting) (k : Cutter) (mark : Char) (rest : List Char) : Cutter × Nat :=
  let n := runLength mark rest + 1
  let after := ((rest.drop (n - 1)).head?).orElse fun _ => how.after
  let run : Run := ⟨mark, n, k.before, after, how.inTable⟩
  if (run.opens || run.closes) && (mark != '~' || n ≤ 2) then
    (k.emit (.delimiters mark run.opens run.closes) 0 n, n)
  else (k, n)

/-- Looks at the next character: also how many characters are dealt with. -/
def step (how : Cutting) (k : Cutter) : Cutter × Nat :=
  match k.now.rest with
  | [] => (k, 1)
  | c :: rest =>
    if c == '\\' then k.backslash how rest
    else if c == '*' || c == '_' || (c == '~' && how.strikethrough) then
      k.delimiters how c rest
    else if c == '`' then
      let n := runLength '`' rest + 1
      (k.emit (.backticks false) 0 n, n)
    else if c == '<' then
      if rest.head? == some '\\' then (k, 1) else (k.emit .angle 0 1, 1)
    else if c == '!' then
      if rest.head? == some '[' then (k.emit .imageOpen 0 2, 2) else (k, 1)
    else if c == '[' then (k.emit .linkOpen 0 1, 1)
    else if c == ']' then (k.emit (.close true) 0 1, 1)
    else if c == '&' then
      match characterReference? (c :: rest) with
      | some (n, text) => (k.emit (.reference text) 0 n, n)
      | none => (k, 1)
    else (k, 1)

/-- Cuts the next characters of a line, of which the first `skip` are dealt with already. -/
def run (how : Cutting) : Nat → Nat → Cutter → Cutter
  | 0, _, k => k
  | length + 1, skip + 1, k => run how length skip k.advance
  | length + 1, 0, k =>
    let (k, n) := k.step how
    run how length (n - 1) k.advance

/-- Ends the line: the text without the last `cut` characters becomes a token. -/
def finish (k : Cutter) (cut : Nat) : List Token :=
  let last := k.now.offset - cut
  if k.begun.offset < last then ⟨.text, k.begun, last⟩ :: k.tokens else k.tokens

end Cutter

/-- The break at the end of a line with the content `line`: its kind and how many characters of the
line it takes. A line without content has nothing but the blanks of its indentation. -/
def lineBreak (line : List Char) : TokenKind × Nat :=
  let back := line.reverse
  if runLength '\\' back % 2 == 1 then (.hardBreak true, 1)
  else
    let n := spaces back
    if n ≥ 2 || line.isEmpty then (.hardBreak false, n) else (.softBreak, n)

/-- The tokens of one line, newest first, before others. `goesOn` says that a line follows. -/
def Token.ofLine (how : Cutting) (start : Cursor) (goesOn : Bool) (tokens : List Token) :
    List Token :=
  let n := countWhile (!isEol ·) start.rest
  let line := start.rest.take n
  let k := Cutter.run how n 0 ⟨start, start, none, tokens⟩
  if goesOn then
    let (kind, cut) := lineBreak line
    let place := k.now.drop 0
    let last := place.offset + (eol? place.rest).getD 0
    ⟨kind, start.drop (n - cut), last⟩ :: k.finish cut
  else k.finish (spaces line.reverse)

/-- The tokens of the lines with the given starts, newest first. -/
def Token.ofStarts (how : Cutting) (tokens : List Token) : List Cursor → List Token
  | [] => tokens
  | [c] => Token.ofLine how c false tokens
  | c :: cs => Token.ofStarts how (Token.ofLine how c true tokens) cs

/-- The tokens of a block. `text` goes up to the end of the block, `starts` are the offsets where
the contents of its lines begin. -/
def Token.ofLines (how : Cutting) (text : Cursor) (starts : List Nat) : List Token :=
  (Token.ofStarts how [] (starts.map text.dropTo)).reverse

/-- The tokens of the text of a heading that begins with number signs. Those at its end, after a
blank, are left out. Only the last token can change. -/
def Token.trimHeading (text : Cursor) (tokens : List Token) : List Token :=
  let isFill (c : Char) := c == '\n' || c == '\r' || c == ' '
  let back := text.rest.reverse.dropWhile isFill
  let body := back.dropWhile (· == '#')
  let limit :=
    if body.isEmpty then 0
    else
      let blanks := runLength ' ' body
      if blanks > 0 then body.length - blanks else back.length
  match tokens.reverse with
  | [] => []
  | t :: ts =>
    if limit == 0 then ts.reverse else (t.endAt (text.offset + limit) :: ts).reverse

end MarkdownTree.Markdown
