import MarkdownTree.Markdown.Scan

/-!
# HTML

Tags, comments and the like, inside of a line and at the start of a block.

A tag in running text may go over several lines. What the containers around it ask for at the
start of those lines is left out of the tag, so a reader of tags keeps the text it has taken.
Inside of a block start a tag may not be broken.
-/

namespace MarkdownTree.Markdown

/-- A tag being read: what lies ahead, how many characters are read, and those kept in reverse. -/
structure TagReader where
  rest : List Char
  used : Nat
  kept : List Char
deriving Repr, Inhabited

namespace TagReader

/-- Keeps the next `n` characters. -/
def take (t : TagReader) (n : Nat) : TagReader :=
  ⟨t.rest.drop n, t.used + n, (t.rest.take n).reverse ++ t.kept⟩

/-- Leaves out the next `n` characters. -/
def leaveOut (t : TagReader) (n : Nat) : TagReader :=
  { t with rest := t.rest.drop n, used := t.used + n }

/-- Keeps leading characters of a class. -/
def takeWhile (t : TagReader) (p : Char → Bool) : TagReader :=
  t.take (countWhile p t.rest)

/-- Keeps the next character if it is `c`. -/
def char? (t : TagReader) (c : Char) : Option TagReader :=
  match t.rest with
  | d :: _ => if c == d then some (t.take 1) else none
  | [] => none

end TagReader

/-- How much of a line belongs to the containers; absent where a line end is not allowed. -/
abbrev Margin := Option (List Char → Nat)

/-- Keeps a line end and leaves out the margin of the next line. -/
def TagReader.newLine? (margin : Margin) (t : TagReader) (length : Nat) : Option TagReader :=
  margin.map fun margin =>
    let t := t.take length
    t.leaveOut (margin t.rest)

/-- The length of the line end at the head of a text; at least one. -/
def eolLength : List Char → Nat
  | '\r' :: '\n' :: _ => 2
  | _ => 1

/-- Reads blanks and line ends. The bound is the number of characters ahead. -/
def tagBlanks (margin : Margin) : Nat → TagReader → Option TagReader
  | 0, t => some t
  | bound + 1, t =>
    match t.rest with
    | [] => some t
    | c :: _ =>
      if isEol c then (t.newLine? margin (eolLength t.rest)).bind (tagBlanks margin bound)
      else if isSpace c then tagBlanks margin bound (t.take 1)
      else some t

/-- Reads blanks and line ends. -/
def TagReader.blanks? (margin : Margin) (t : TagReader) : Option TagReader :=
  tagBlanks margin t.rest.length t

/-- Reads a quoted value after its first quote. -/
def quotedValue (margin : Margin) (quote : Char) : Nat → TagReader → Option TagReader
  | 0, _ => none
  | bound + 1, t =>
    match t.rest with
    | [] => none
    | c :: _ =>
      if c == quote then some (t.take 1)
      else if isEol c then
        (t.newLine? margin (eolLength t.rest)).bind (quotedValue margin quote bound)
      else quotedValue margin quote bound (t.take 1)

/-- Whether a character may be part of a value without quotes. -/
def isBareValue (c : Char) : Bool :=
  !(c == '\'' || c == '"' || c == ' ' || c == '=' || c == '>' || c == '<' || c == '`' || isEol c)

/-- Reads the value of an attribute. -/
def attributeValue? (margin : Margin) (t : TagReader) : Option TagReader :=
  match t.rest with
  | [] => none
  | c :: _ =>
    if c == '"' || c == '\'' then quotedValue margin c t.rest.length (t.take 1)
    else if isBareValue c then some (t.takeWhile isBareValue)
    else none

/-- Whether a character may begin the name of an attribute. -/
def isAttributeStart (c : Char) : Bool :=
  c.isAlpha || c == '_' || c == ':'

/-- Whether a character may be part of the name of an attribute. -/
def isAttributeName (c : Char) : Bool :=
  c.isAlphanum || c == '_' || c == '.' || c == ':' || c == '-'

/-- Reads an attribute. Blanks behind it are left to the next one. -/
def attribute? (margin : Margin) (t : TagReader) : Option TagReader :=
  match t.rest with
  | [] => none
  | c :: _ =>
    if isAttributeStart c then
      let t := (t.take 1).takeWhile isAttributeName
      (t.blanks? margin).bind fun u =>
        match u.char? '=' with
        | some u => (u.blanks? margin).bind (attributeValue? margin)
        | none => some t
    else none

/-- Reads the attributes of an opening tag, and the blanks before its end. Every attribute has
blanks before it. -/
def attributes (margin : Margin) : Nat → TagReader → Option TagReader
  | 0, _ => none
  | bound + 1, t =>
    (t.blanks? margin).bind fun u =>
      match u.rest with
      | [] => none
      | c :: _ =>
        if c == '/' || c == '>' then some u
        else if u.used == t.used then none
        else (attribute? margin u).bind (attributes margin bound)

/-- Reads the end of a tag. An opening tag may have a slash before it. -/
def tagEnd? (closing : Bool) (t : TagReader) : Option TagReader :=
  let t := t.takeWhile isSpace
  let t := if closing then t else (t.char? '/').getD t
  t.char? '>'

/-- Reads an opening or closing tag, from its first angle on. -/
def htmlTag? (margin : Margin) (s : List Char) : Option TagReader :=
  let t := (TagReader.mk s 0 []).take 1
  let closing := t.rest.head? == some '/'
  let t := if closing then t.take 1 else t
  match t.rest with
  | [] => none
  | c :: _ =>
    if c.isAlpha then
      let t := t.takeWhile fun c => c.isAlphanum || c == '-'
      if closing then tagEnd? true t
      else (attributes margin (t.rest.length + 1) t).bind (tagEnd? false)
    else none

/-- The length of a comment, declaration or section of character data after its angle and
exclamation mark. -/
def htmlDeclaration? (s : List Char) : Option Nat :=
  match s with
  | '-' :: '-' :: _ => through? ['-', '-', '>'] s
  | '[' :: 'C' :: 'D' :: 'A' :: 'T' :: 'A' :: '[' :: t =>
    let before := countWhile (· != ']') t
    let brackets := runLength ']' (t.drop before)
    match t.drop (before + brackets) with
    | '>' :: _ => if brackets == 0 then none else some (7 + before + brackets + 1)
    | _ => none
  | c :: _ => if c.isAlpha then through? ['>'] s else none
  | [] => none

/-- Reads HTML inside of a text, from its first angle on: the text without margins and the number
of characters. -/
def inlineHtml? (margin : List Char → Nat) (s : List Char) : Option (List Char × Nat) :=
  let raw (n : Nat) := (s.take n, n)
  match s with
  | '<' :: '!' :: t => (htmlDeclaration? t).map fun n => raw (n + 2)
  | '<' :: '?' :: t => (through? ['?', '>'] t).map fun n => raw (n + 2)
  | _ => (htmlTag? (some margin) s).map fun t => (t.kept.reverse, t.used)

/-! ## HTML blocks -/

/-- The names after which an HTML block goes on to the closing tag. -/
def rawTextTags : List String :=
  ["pre", "style", "script", "textarea"]

/-- The names that begin an HTML block wherever they stand. -/
def blockTags : List String :=
  ["address", "article", "aside", "base", "basefont", "blockquote", "body", "caption", "center",
    "col", "colgroup", "dd", "details", "dialog", "dir", "div", "dl", "dt", "fieldset",
    "figcaption", "figure", "footer", "form", "frame", "frameset", "h1", "h2", "h3", "h4", "h5",
    "h6", "head", "header", "hr", "html", "iframe", "legend", "li", "link", "main", "menu",
    "menuitem", "nav", "noframes", "ol", "optgroup", "option", "p", "param", "search", "section",
    "summary", "table", "tbody", "td", "tfoot", "th", "thead", "title", "tr", "track", "ul"]

/-- Whether two ASCII texts are equal but for case. -/
def equalsIgnoringCase (s : List Char) (name : String) : Bool :=
  s.map Char.toLower == name.toList

/-- Whether a text begins with the name of a raw text tag that ends there. -/
def startsRawTextTag (s : List Char) (name : String) : Bool :=
  let n := name.length
  equalsIgnoringCase (s.take n) name &&
    match s.drop n with
    | [] => true
    | c :: _ => isAsciiBlank c || c == '>'

/-- What ends the HTML block that begins with an angle before `s`, if it goes on to a certain
text. -/
def htmlBlockEnd? (s : List Char) : Option (List Char) :=
  match rawTextTags.find? (startsRawTextTag s) with
  | some name => some ("</".toList ++ name.toList ++ ['>'])
  | none =>
    match s with
    | '!' :: '-' :: '-' :: _ => some ['-', '-', '>']
    | '?' :: _ => some ['?', '>']
    | '!' :: '[' :: 'C' :: 'D' :: 'A' :: 'T' :: 'A' :: '[' :: _ => some [']', ']', '>']
    | '!' :: c :: _ => if c.isAlpha then some ['>'] else none
    | _ => none

/-- Whether the text after an angle begins an HTML block with one of the block tags. -/
def startsBlockTag (s : List Char) : Bool :=
  let s := (afterChar? '/' s).getD s
  let name := s.takeWhile Char.isAlphanum
  blockTags.any (equalsIgnoringCase name) &&
    match s.drop name.length with
    | [] => true
    | '/' :: '>' :: _ => true
    | c :: _ => c == ' ' || c == '\t' || isEol c || c == '>'

/-- Whether a line begins with a complete tag and nothing follows it. -/
def isTagLine (s : List Char) : Bool :=
  match htmlTag? none s with
  | some t => isBlankLine t.rest
  | none => false

/-- Whether the text after an angle begins an HTML block that may interrupt a paragraph. -/
def startsHtmlBlock (s : List Char) : Bool :=
  (htmlBlockEnd? s).isSome || startsBlockTag s

end MarkdownTree.Markdown
