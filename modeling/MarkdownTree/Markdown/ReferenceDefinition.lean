import MarkdownTree.Event
import MarkdownTree.Markdown.CharacterReference
import MarkdownTree.Markdown.Destination
import MarkdownTree.Markdown.Interrupt

/-!
# Link reference definitions

A definition is a label, a colon, a destination and perhaps a title, at the start of a paragraph.
Between them are blanks with at most one line end. What looks like a title but is no title, in a
line of its own, belongs to the paragraph after the definition.

* `Nesting.definition?` — reads a definition
-/

namespace MarkdownTree.Markdown.Nesting

/-- Skips blanks and at most one line end: also whether there was one. The place at the end of the
source counts as a blank line. -/
def definitionBlanks? (x : Nesting) (c : Cursor) : Option (Bool × Cursor) :=
  let c := c.drop (spaces c.rest)
  match eol? c.rest with
  | none => some (false, c)
  | some n =>
    (x.nextPlainLine? (c.drop n)).bind fun l =>
      let c := l.place.drop (spaces l.rest)
      match eol? c.rest with
      | none => some (true, c)
      | some _ => none

/-- Reads a title up to the closing mark: the text, and the place behind the mark. The text so far
is in reverse. The bound is more than the number of characters ahead. -/
def titleUpTo? (x : Nesting) (mark : Char) : Nat → List Char → Cursor → Option (List Char × Cursor)
  | 0, _, _ => none
  | bound + 1, text, c =>
    match c.rest with
    | [] => none
    | d :: rest =>
      if d == mark then some (text.reverse, c.drop 1)
      else if d == '(' && mark == ')' then none
      else if isEol d then
        let n := (eol? c.rest).getD 1
        match x.nextPlainLine? (c.drop n) with
        | some l =>
          let l := l.skipAll
          if l.atEol then none else titleUpTo? x mark bound ('\n' :: text) l.place
        | none => none
      else if d == '\\' then
        match rest with
        | e :: _ =>
          if isEol e then titleUpTo? x mark bound (d :: text) (c.drop 1)
          else titleUpTo? x mark bound (e :: d :: text) (c.drop 2)
        | [] => none
      else titleUpTo? x mark bound (d :: text) (c.drop 1)

/-- Reads a title with the marks around it. -/
def title? (x : Nesting) (c : Cursor) : Option (List Char × Cursor) :=
  match c.rest with
  | d :: _ =>
    if d == '"' || d == '\'' then x.titleUpTo? d (c.rest.length + 1) [] (c.drop 1)
    else if d == '(' then x.titleUpTo? ')' (c.rest.length + 1) [] (c.drop 1)
    else none
  | [] => none

/-- Reads what follows the destination of a definition: a title, if there is one, and the place
where the definition ends. -/
def definitionTitle? (x : Nesting) (c : Cursor) : Option (Option (List Char) × Cursor) :=
  let without := (none, c)
  match x.definitionBlanks? c with
  | none => some without
  | some (broken, d) =>
    if !broken && d.offset == c.offset then none
    else
      match x.title? d with
      | some (title, e) =>
        if isBlankLine e.rest then some (some title, e)
        else if broken then some without
        else none
      | none => if broken then some without else none

/-- Reads a definition at its opening bracket: also the place where the line after it begins. -/
def definition? (x : Nesting) (c : Cursor) : Option (Definition × Cursor) :=
  match c.rest with
  | '[' :: s =>
    let newLine (s : List Char) := (x.nextPlainLine? ⟨0, s⟩).map (·.place.offset)
    (Label.read? false newLine s).bind fun (n, label) =>
      match s.drop n with
      | ':' :: _ =>
        (x.definitionBlanks? (c.drop (n + 2))).bind fun (_, d) =>
          (destination? d.rest).bind fun (length, destination) =>
            if length == 0 then none
            else
              (x.definitionTitle? (d.drop length)).map fun (title, e) =>
                let text (s : List Char) := String.ofList (unescape false s)
                (⟨String.ofList label, text destination, title.map text, c.offset⟩,
                  e.drop ((blankLine? e.rest).getD 0))
      | _ => none
  | _ => none

end MarkdownTree.Markdown.Nesting
