import MarkdownTree.Markdown.Punctuation
import MarkdownTree.Markdown.Scan

/-!
# Link destinations

The destination of a link stands in angles, or is bare: then it ends at a blank or control
character, and its parentheses are balanced. An autolink is a destination in angles that says
itself what it is: a URI with a scheme, or an address.
-/

namespace MarkdownTree.Markdown

/-! ## Destinations -/

/-- Reads a destination up to its closing angle: the length with it, and the raw text, in
reverse. -/
def angleDestination? : List Char → Option (Nat × List Char)
  | [] => none
  | '\\' :: c :: s =>
    if isAsciiPunctuation c then
      (angleDestination? s).map fun (n, d) => (n + 2, '\\' :: c :: d)
    else (angleDestination? (c :: s)).map fun (n, d) => (n + 1, '\\' :: d)
  | c :: s =>
    if c == '>' then some (1, [])
    else if isEol c || c == '<' then none
    else (angleDestination? s).map fun (n, d) => (n + 1, c :: d)

/-- How deep parentheses may be nested in a bare destination. -/
def maxParentheses : Nat := 6

/-- The length of a bare destination, of which `depth` parentheses are open. -/
def bareDestination? (depth : Nat) : List Char → Option Nat
  | [] => if depth == 0 then some 0 else none
  | '\\' :: c :: s =>
    if isAsciiPunctuation c then (bareDestination? depth s).map (2 + ·)
    else (bareDestination? depth (c :: s)).map (1 + ·)
  | c :: s =>
    if c.toNat ≤ 0x20 then if depth == 0 then some 0 else none
    else if c == '(' then
      if depth ≥ maxParentheses then none else (bareDestination? (depth + 1) s).map (1 + ·)
    else if c == ')' then
      if depth == 0 then some 0 else (bareDestination? (depth - 1) s).map (1 + ·)
    else (bareDestination? depth s).map (1 + ·)

/-- A link destination: its length, and its text with the escapes. -/
def destination? : List Char → Option (Nat × List Char)
  | '<' :: s => (angleDestination? s).map fun (n, d) => (n + 1, d)
  | s => (bareDestination? 0 s).map fun n => (n, s.take n)

/-! ## Autolinks -/

/-- The length of a URI with a scheme of 2 to 32 characters, up to the closing angle. -/
def uri? : List Char → Option Nat
  | [] => none
  | c :: s =>
    if c.isAlpha then
      let scheme := countWhile (fun c => c.isAlphanum || c == '.' || c == '-' || c == '+') (c :: s)
      match (c :: s).drop scheme with
      | ':' :: t =>
        let path := countWhile (fun c => c.toNat > 0x20 && c != '<' && c != '>') t
        match t.drop path with
        | '>' :: _ => if 2 ≤ scheme && scheme ≤ 32 then some (scheme + 1 + path) else none
        | _ => none
      | _ => none
    else none

/-- Whether a character may stand before the at sign of an address. -/
def isMailboxChar (c : Char) : Bool :=
  c.isAlphanum || ".!#$%&'*+/=?^_`\x7b|\x7d~-".toList.contains c

/-- The length of the names after the at sign of an address, up to the closing angle. Each has 1
to 63 letters, digits and hyphens, with no hyphen at an end, and a full stop goes between them. The
bound is the number of characters ahead. -/
def domain? : Nat → List Char → Option Nat
  | 0, _ => none
  | bound + 1, s =>
    let name := s.takeWhile fun c => c.isAlphanum || c == '-'
    let n := name.length
    if n == 0 || n > 63 || name.head? == some '-' || name.getLast? == some '-' then none
    else
      match s.drop n with
      | '.' :: t => (domain? bound t).map (n + 1 + ·)
      | '>' :: _ => some n
      | _ => none

/-- The length of an address, up to the closing angle. -/
def address? (s : List Char) : Option Nat :=
  let n := countWhile isMailboxChar s
  match s.drop n with
  | '@' :: t => if n == 0 then none else (domain? t.length t).map (n + 1 + ·)
  | _ => none

/-- The length of the destination of an autolink, after its opening angle. -/
def autolink? (s : List Char) : Option Nat :=
  (uri? s).orElse fun _ => address? s

end MarkdownTree.Markdown
