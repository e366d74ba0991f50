/-!
# Scanning

Small recognisers on the characters that lie ahead. Each one says how many characters it takes.

* `eol?` — a line end: a line feed, a carriage return, both, or the end of the text
* `blankLine?` — blanks up to and with a line end
* `lineLength` — up to and with the next line feed
-/

namespace MarkdownTree.Markdown

/-- The blanks that do not end a line. -/
def isSpace (c : Char) : Bool :=
  c == ' ' || c == '\t' || c == '\x0b' || c == '\x0c'

/-- The blanks of ASCII, line ends among them. -/
def isAsciiBlank (c : Char) : Bool :=
  isSpace c || c == '\n' || c == '\r'

/-- Whether a character ends a line. -/
def isEol (c : Char) : Bool :=
  c == '\n' || c == '\r'

/-- The number of leading characters of a class. -/
def countWhile (p : Char → Bool) (s : List Char) : Nat :=
  (s.takeWhile p).length

/-- The number of leading characters equal to `c`. -/
def runLength (c : Char) (s : List Char) : Nat :=
  countWhile (· == c) s

/-- The number of leading blanks on a line. -/
def spaces (s : List Char) : Nat :=
  countWhile isSpace s

/-- The length of a line end. -/
def eol? : List Char → Option Nat
  | [] => some 0
  | '\n' :: _ => some 1
  | '\r' :: '\n' :: _ => some 2
  | '\r' :: _ => some 1
  | _ => none

/-- The length of a blank rest of a line, with its end. -/
def blankLine? (s : List Char) : Option Nat :=
  (eol? (s.drop (spaces s))).map (spaces s + ·)

/-- Whether the rest of the line is blank. -/
def isBlankLine (s : List Char) : Bool :=
  (blankLine? s).isSome

/-- The length up to and with the next line feed. -/
def lineLength (s : List Char) : Nat :=
  let n := countWhile (· != '\n') s
  if (s.drop n).isEmpty then n else n + 1

/-- What follows a leading `c`. -/
def afterChar? (c : Char) : List Char → Option (List Char)
  | d :: s => if c == d then some s else none
  | [] => none

/-- Whether a text begins with another. -/
def startsWith (s start : List Char) : Bool :=
  start.isPrefixOf s

/-- The length up to and with the first occurrence of a text. -/
def through? (target : List Char) : List Char → Option Nat
  | [] => none
  | c :: s =>
    if target.isPrefixOf (c :: s) then some target.length
    else (through? target s).map (· + 1)

/-- Whether a text occurs in another. -/
def occursIn (target s : List Char) : Bool :=
  (through? target s).isSome

/-- Reads at most `limit` decimal digits: how many there are, and the number. -/
def decimal (limit : Nat) (s : List Char) : Nat × Nat :=
  let digits := (s.take limit).takeWhile Char.isDigit
  (digits.length, digits.foldl (fun n c => 10 * n + (c.toNat - 0x30)) 0)

end MarkdownTree.Markdown
