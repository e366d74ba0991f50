import MarkdownTree.Markdown.Bracket

/-!
# Emphasis

The second reading of inline content makes emphasis of runs of delimiters. A closing run takes the
nearest opening run of the same character that fits; the runs between them become text. Of two
runs as many delimiters are used as the shorter one has: inner pairs make strong emphasis, and an
odd one left over makes emphasis around it. Tildes make strikethrough in place of both.

Two runs of which one could do both, open and close, fit only if their lengths do not add up to a
multiple of three, or are multiples of three themselves. Runs of tildes fit if they are of the same
length.

* `Emphasis.close` — what a closing run does
* `Piece.events` — the events of inline content
-/

namespace MarkdownTree.Markdown

/-- An opening run of delimiters, of which `count` are left. `length` is that of the whole run and
`both` says that it could close emphasis too. What follows it is newest first. -/
structure Opener where
  mark : Char
  length : Nat
  count : Nat
  both : Bool
  first : Nat
  content : List Located
deriving Repr, Inhabited

/-- Events so far, newest first: those after each opener, the innermost opener first, and those
before all of them. Openers below `tildeBound`, counted from the outermost one, are known not to fit
a run of tildes. -/
structure Emphasis where
  openers : List Opener := []
  before : List Located := []
  tildeBound : Nat := 0
deriving Repr, Inhabited

namespace Emphasis

/-- Delimiters that are text, newest first. -/
def delimiterText (mark : Char) (first count : Nat) : List Located :=
  ((List.range count).map fun i => ⟨.text mark.toString, first + i, first + i + 1⟩).reverse

/-- An opener as text, and what follows it; newest first. -/
def openerText (o : Opener) : List Located :=
  o.content ++ delimiterText o.mark o.first o.count

/-- Adds events, newest first. -/
def add (e : Emphasis) (new : List Located) : Emphasis :=
  match e.openers with
  | o :: os => { e with openers := { o with content := new ++ o.content } :: os }
  | [] => { e with before := new ++ e.before }

/-- Adds an opener. -/
def push (e : Emphasis) (o : Opener) : Emphasis :=
  { e with openers := o :: e.openers }

/-- Makes the openers text; all events, newest first. -/
def settle (e : Emphasis) : List Located :=
  (e.openers.map openerText).flatten ++ e.before

/-- Whether a closing run fits an opener. -/
def fits (mark : Char) (length : Nat) (both : Bool) (o : Opener) : Bool :=
  o.mark == mark && (mark != '~' || length == o.length) &&
    (!both && !o.both || (length + o.length) % 3 != 0 || length % 3 == 0)

/-- Takes the nearest opener that fits: the events between it and now, newest first. Without one,
runs of tildes need not look at these openers again. -/
def take? (e : Emphasis) (mark : Char) (length : Nat) (both : Bool) :
    Option (Opener × Emphasis) × Emphasis :=
  let known := if mark == '~' then min e.tildeBound e.openers.length else 0
  let inner := (e.openers.take (e.openers.length - known)).takeWhile
    fun o => !fits mark length both o
  match if inner.length + known < e.openers.length then e.openers.drop inner.length else [] with
  | o :: os =>
    let content := (inner.map openerText).flatten ++ o.content
    let rest := { e with openers := os, tildeBound := min e.tildeBound os.length }
    (some ({ o with content }, rest), e)
  | [] => (none, if mark == '~' then { e with tildeBound := e.openers.length } else e)

/-- The tag that a pair of delimiters makes, or a single one. -/
def tag (mark : Char) (double : Bool) : Tag :=
  if mark == '~' then .strikethrough else if double then .strong else .emphasis

/-- Puts an element around events, newest first. -/
def around (tag : Tag) (first last : Nat) (content : List Located) : List Located :=
  ⟨.stop, first, last⟩ :: content ++ [⟨.start tag, first, last⟩]

/-- Puts elements around events: one for each pair of the delimiters that end at `first` and begin
at `last`, and one for a delimiter left over. -/
def wrap (mark : Char) : Nat → Nat → Nat → List Located → List Located
  | 0, _, _, content => content
  | 1, first, last, content => around (tag mark false) (first - 1) (last + 1) content
  | n + 2, first, last, content =>
    wrap mark n (first - 2) (last + 2) (around (tag mark true) (first - 2) (last + 2) content)

/-- A closing run of which `count` delimiters are left, the first of them at `first`: also what is
left when no more opener fits. Each opener uses up at least one delimiter, so that their number
bounds that of openers. -/
def close (mark : Char) (length : Nat) (both : Bool) :
    Nat → Emphasis → Nat → Nat → Emphasis × Nat × Nat
  | 0, e, first, count => (e, first, count)
  | bound + 1, e, first, count =>
    match e.take? mark length both with
    | (none, e) => (e, first, count)
    | (some (o, e), _) =>
      let n := min count o.count
      let content := wrap mark n (o.first + o.count) first o.content
      let e :=
        if n < o.count then e.push { o with count := o.count - n, content } else e.add content
      if count == n then (e, first + n, 0)
      else close mark length both bound e (first + n) (count - n)

/-- A run of delimiters. -/
def run (e : Emphasis) (mark : Char) (opens closes : Bool) (first length : Nat) : Emphasis :=
  let both := opens && closes
  let (e, first, count) :=
    if closes then close mark length both length e first length else (e, first, length)
  if count == 0 then e
  else if opens then e.push ⟨mark, length, count, both, first, []⟩
  else e.add (delimiterText mark first count)

end Emphasis

mutual

/-- Adds the events of pieces. `afterRun` says that a run of delimiters came before; then a
backslash at the very end is text and no break. -/
def Piece.addEvents (afterRun : Bool) (e : Emphasis) : List Piece → Emphasis
  | [] => e
  | .leaf l :: ps => Piece.addEvents afterRun (e.add [l]) ps
  | .lineBreak backslash first last :: ps =>
    let event := if backslash && afterRun && ps.isEmpty then Event.text "\\" else .hardBreak
    Piece.addEvents afterRun (e.add [⟨event, first, last⟩]) ps
  | .run mark opens closes first length :: ps =>
    Piece.addEvents true (e.run mark opens closes first length) ps
  | .link tag first last content :: ps =>
    let link := ⟨.start tag, first, last⟩ :: Piece.events content ++ [⟨.stop, first, last⟩]
    Piece.addEvents afterRun (e.add link.reverse) ps

/-- The events of inline content. -/
def Piece.events (ps : List Piece) : List Located :=
  (Piece.addEvents false {} ps).settle.reverse

end

end MarkdownTree.Markdown
