/-!
# Blank characters

Trimming and splitting by the characters with the Unicode property *White_Space*.

* `trimEnd`, `trim` — without the blanks at the end, or at both ends
* `firstWord?` — the first maximal run of characters that are not blank
-/

namespace MarkdownTree.Text

/-- Whether a character is white space. -/
def isBlank (c : Char) : Bool :=
  let n := c.toNat
  (0x09 ≤ n && n ≤ 0x0D) || n == 0x20 || n == 0x85 || n == 0xA0 || n == 0x1680 ||
    (0x2000 ≤ n && n ≤ 0x200A) || n == 0x2028 || n == 0x2029 || n == 0x202F || n == 0x205F ||
    n == 0x3000

/-- The text without its trailing blanks. -/
def trimEnd (s : List Char) : List Char :=
  (s.reverse.dropWhile isBlank).reverse

/-- The text without its leading and trailing blanks. -/
def trim (s : List Char) : List Char :=
  trimEnd (s.dropWhile isBlank)

/-- The first word of a text, if it has one. -/
def firstWord? (s : List Char) : Option (List Char) :=
  match (s.dropWhile isBlank).takeWhile (!isBlank ·) with
  | [] => none
  | w => some w

end MarkdownTree.Text
