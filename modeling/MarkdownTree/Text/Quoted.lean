import MarkdownTree.Text.Printable

/-!
# Quoted text

A quoted text stands between double quotes on one line. A quote or backslash inside has a backslash
before it, and a character that is not shown as it is becomes an escape: `\0`, `\t`, `\r`, `\n` or
its code point in hexadecimal between braces.
-/

namespace MarkdownTree.Text

/-- Lower-case hexadecimal digits of a number. -/
def hexDigits (n : Nat) : List Char :=
  Nat.toDigits 16 n

/-- One character inside of a quoted text. -/
def quoteChar (c : Char) : List Char :=
  match c with
  | '\x00' => ['\\', '0']
  | '\t' => ['\\', 't']
  | '\r' => ['\\', 'r']
  | '\n' => ['\\', 'n']
  | '"' => ['\\', '"']
  | '\\' => ['\\', '\\']
  | c => if isPrintable c then [c] else ['\\', 'u', '{'] ++ hexDigits c.toNat ++ ['}']

/-- The quoted form of a text. -/
def quoted (s : String) : List Char :=
  '"' :: s.toList.flatMap quoteChar ++ ['"']

end MarkdownTree.Text
