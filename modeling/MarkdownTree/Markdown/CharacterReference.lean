import MarkdownTree.Markdown.NamedReference
import MarkdownTree.Markdown.Punctuation
import MarkdownTree.Markdown.Scan

/-!
# Character references and escapes

A character reference begins with an ampersand and ends with a semicolon. Between them is a name,
a decimal number of at most seven digits, or a hexadecimal number of at most six. A number that is
no code point, and zero, stands for the replacement character.

A backslash before ASCII punctuation makes it stand for itself.
-/

namespace MarkdownTree.Markdown

/-- The text that a code point stands for. -/
def codePointText (n : Nat) : String :=
  let c := Char.ofNat n
  if n != 0 && c.toNat == n then c.toString else "\uFFFD"

/-- Reads at most `limit` hexadecimal digits. -/
def hexadecimal (limit : Nat) (s : List Char) : Nat × Nat :=
  let digits := (s.take limit).takeWhile fun c => (hexValue c).isSome
  (digits.length, hexNumber digits)

/-- A numeric reference after the number sign: its length and text. -/
def numericReference? (s : List Char) : Option (Nat × String) :=
  let (skipped, digits, code) := match s with
    | 'x' :: t => (1, hexadecimal 6 t)
    | 'X' :: t => (1, hexadecimal 6 t)
    | t => (0, decimal 7 t)
  if digits == 0 then none
  else
    match s.drop (skipped + digits) with
    | ';' :: _ => some (skipped + digits + 1, codePointText code)
    | _ => none

/-- The character reference at an ampersand: its length and text. -/
def characterReference? : List Char → Option (Nat × String)
  | '&' :: '#' :: s => (numericReference? s).map fun (n, t) => (n + 2, t)
  | '&' :: s =>
    let name := s.takeWhile Char.isAlphanum
    match s.drop name.length with
    | ';' :: _ => (namedReference? name).map fun t => (name.length + 2, t)
    | _ => none
  | _ => none

/-- A text without its escapes: references are replaced, carriage returns dropped. Inside of a
table two backslashes before a bar give the bar. The parameter `skip` counts characters that
belong to what was replaced last. -/
def unescapeFrom (inTable : Bool) : Nat → List Char → List Char
  | _, [] => []
  | skip + 1, _ :: s => unescapeFrom inTable skip s
  | 0, '\\' :: '\\' :: '|' :: s =>
    if inTable then '|' :: unescapeFrom inTable 0 s
    else '\\' :: '|' :: unescapeFrom inTable 0 s
  | 0, '\\' :: c :: s =>
    if isAsciiPunctuation c then c :: unescapeFrom inTable 0 s
    else '\\' :: unescapeFrom inTable 0 (c :: s)
  | 0, '&' :: s =>
    match characterReference? ('&' :: s) with
    | some (n, t) => t.toList ++ unescapeFrom inTable (n - 1) s
    | none => '&' :: unescapeFrom inTable 0 s
  | 0, '\r' :: s => unescapeFrom inTable 0 s
  | 0, c :: s => c :: unescapeFrom inTable 0 s

/-- A text without its escapes. -/
def unescape (inTable : Bool) (s : List Char) : List Char :=
  unescapeFrom inTable 0 s

end MarkdownTree.Markdown
