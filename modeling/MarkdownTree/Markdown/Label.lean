import MarkdownTree.Markdown.Scan
import MarkdownTree.Text.CaseFold

/-!
# Link labels

A label stands in brackets and has at least one character that is no blank. Brackets inside of it
have a backslash before them. Blanks and line ends in a row become one blank. Two labels are the
same if they are equal after case folding.

* `Label.read?` — reads a label after its opening bracket
* `Label.key` — what labels are compared by
-/

namespace MarkdownTree.Markdown.Label

/-- What to skip at the start of a new line inside of a label; absent if the label may not go on
there. -/
abbrev NewLine := List Char → Option Nat

/-- No label goes on in a new line. -/
def oneLine : NewLine := fun _ => none

/-- The length of a run of blanks with at most one line end. The bound is the number of characters
ahead. -/
def blanks? (newLine : NewLine) (broken : Bool) : Nat → List Char → Option Nat
  | 0, _ => some 0
  | bound + 1, s =>
    match s with
    | [] => some 0
    | c :: t =>
      if isEol c then
        if broken then none
        else
          let n := (eol? s).getD 1
          (newLine (s.drop n)).bind fun margin =>
            (blanks? newLine true bound (s.drop (n + margin))).map (n + margin + ·)
      else if isSpace c then (blanks? newLine broken bound t).map (1 + ·)
      else some 0

/-- A label being read: the number of characters read, the weight, the characters kept in reverse,
and whether all of them are blank. A label of weight 1000 is too long; blanks count, and so do the
bytes of characters outside of ASCII. -/
structure Reader where
  used : Nat := 0
  weight : Nat := 0
  kept : List Char := []
  blank : Bool := true
deriving Repr, Inhabited

namespace Reader

/-- What one character adds to the weight. -/
def charWeight (c : Char) : Nat :=
  if c.toNat < 0x80 then 0 else c.utf8Size

/-- Keeps a character that is no blank. -/
def keep (r : Reader) (c : Char) : Reader :=
  { used := r.used + 1, weight := r.weight + charWeight c, kept := c :: r.kept, blank := false }

/-- Reads on to the closing bracket: the length with it, and the label. Inside of a table one of the
backslashes before a bar is left out. The bound is more than the number of characters ahead. -/
def run (inTable : Bool) (newLine : NewLine) : Nat → Reader → List Char →
    Option (Nat × List Char)
  | 0, _, _ => none
  | bound + 1, r, s =>
    if r.weight ≥ 1000 then none
    else
      match s with
      | [] => none
      | '[' :: _ => none
      | ']' :: _ => if r.blank then none else some (r.used + 1, r.kept.reverse)
      | '\\' :: c :: t =>
        if inTable && c == '|' then
          run inTable newLine bound { r.keep '|' with used := r.used + 2 } t
        else if inTable && c == '\\' && t.head? == some '|' then
          run inTable newLine bound { (r.keep '\\').keep '|' with used := r.used + 3 } (t.drop 1)
        else
          let r := (r.keep '\\').keep c
          run inTable newLine bound { r with weight := r.weight + 2 } t
      | c :: t =>
        if c == '|' && inTable then none
        else if isAsciiBlank c then
          match blanks? newLine false s.length s with
          | some n =>
            run inTable newLine bound
              { r with used := r.used + n, weight := r.weight + n, kept := ' ' :: r.kept }
              (s.drop n)
          | none => none
        else run inTable newLine bound (r.keep c) t

end Reader

/-- Reads a label after its opening bracket: the length with the closing bracket, and the label. -/
def read? (inTable : Bool) (newLine : NewLine) (s : List Char) : Option (Nat × List Char) :=
  Reader.run inTable newLine (s.length + 1) {} s

/-- What labels are compared by. -/
def key (label : List Char) : List Char :=
  Text.caseFold label

end MarkdownTree.Markdown.Label
