/-!
# Lines

A line ends at a line feed. A carriage return directly before the line feed belongs to the line
end. Text after the last line feed is a line only if there is some.
-/

namespace MarkdownTree.Text

/-- Takes a line, whose characters come in reverse, off its carriage return. -/
def chop : List Char → List Char
  | '\r' :: s => s.reverse
  | s => s.reverse

/-- The lines of a text, given the line read so far in reverse. -/
def linesFrom (line : List Char) : List Char → List (List Char)
  | [] => if line.isEmpty then [] else [line.reverse]
  | '\n' :: s => chop line :: linesFrom [] s
  | c :: s => linesFrom (c :: line) s

/-- The lines of a text. -/
def lines (s : List Char) : List (List Char) :=
  linesFrom [] s

end MarkdownTree.Text
