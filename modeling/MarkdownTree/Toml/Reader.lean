import MarkdownTree.Toml.Scalar

/-!
# TOML documents

A document is a sequence of lines. Each holds a key with a value, the header of a table or of an
element of an array of tables, or nothing; a comment may follow.

* `value?` — reads a value
* `document?` — reads a document
-/

namespace MarkdownTree.Toml

/-- What follows blanks. -/
def skipBlanks (s : List Char) : List Char :=
  s.dropWhile fun c => c == ' ' || c == '\t'

/-- What follows a comment, if one stands here. Control characters are not allowed in it. -/
def skipComment? (s : List Char) : Option (List Char) :=
  match s with
  | '#' :: t =>
    let rest := t.dropWhile isTextChar
    if rest.isEmpty || (afterNewLine? rest).isSome then some rest else none
  | _ => some s

/-- What follows blanks, comments and line ends. The bound is the number of characters ahead. -/
def skipSpace? : Nat → List Char → Option (List Char)
  | 0, s => some s
  | bound + 1, s =>
    (skipComment? (skipBlanks s)).bind fun t =>
      match afterNewLine? t with
      | some u => skipSpace? bound u
      | none => some t

/-! ## Keys -/

/-- Reads one part of a key. -/
def keyPart? (s : List Char) : Option (String × List Char) :=
  match s with
  | c :: _ =>
    if c == '"' || c == '\'' then shortText? s
    else
      let name := s.takeWhile isBareKey
      if name.isEmpty then none else some (String.ofList name, s.drop name.length)
  | [] => none

/-- Reads a dotted key. Blanks around it and around its dots are skipped. The bound is more than the
number of characters ahead. -/
def key? : Nat → List Char → Option (List String × List Char)
  | 0, _ => none
  | bound + 1, s =>
    (keyPart? (skipBlanks s)).bind fun (part, s) =>
      match skipBlanks s with
      | '.' :: s => (key? bound s).map fun (parts, s) => (part :: parts, s)
      | s => some ([part], s)

/-! ## Values -/

mutual

/-- Reads a value. The bound is more than the number of characters ahead. -/
def value? : Nat → List Char → Option (Value × List Char)
  | 0, _ => none
  | bound + 1, s =>
    match s with
    | [] => none
    | '[' :: s => items? bound [] s
    | '\x7b' :: s => entries? bound [] s
    | c :: _ =>
      if c == '"' || c == '\'' then (text? s).map fun (t, s) => (.text t, s)
      else
        let word := wordAt s
        (word? word).map fun v => (v, s.drop word.length)

/-- Reads the rest of an array; the items so far are newest first. -/
def items? : Nat → List Value → List Char → Option (Value × List Char)
  | 0, _, _ => none
  | bound + 1, items, s =>
    (skipSpace? s.length s).bind fun s =>
      match s with
      | ']' :: s => some (.array items.reverse, s)
      | s =>
        (value? bound s).bind fun (v, s) =>
          (skipSpace? s.length s).bind fun s =>
            match s with
            | ',' :: s => items? bound (v :: items) s
            | ']' :: s => some (.array (v :: items).reverse, s)
            | _ => none

/-- Reads the rest of a table in braces. -/
def entries? : Nat → Table → List Char → Option (Value × List Char)
  | 0, _, _ => none
  | bound + 1, entries, s =>
    (skipSpace? s.length s).bind fun s =>
      match s with
      | '\x7d' :: s => some (.table .inline entries, s)
      | s =>
        (key? (s.length + 1) s).bind fun (path, s) =>
          match s with
          | '=' :: s =>
            (value? bound (skipBlanks s)).bind fun (v, s) =>
              (Table.insert? v path entries).bind fun entries =>
                (skipSpace? s.length s).bind fun s =>
                  match s with
                  | ',' :: s => entries? bound entries s
                  | '\x7d' :: s => some (.table .inline entries, s)
                  | _ => none
          | _ => none

end

/-! ## Lines -/

/-- A document being read: its tables so far, and the path of the table that keys are added to. -/
structure Progress where
  root : Table := []
  path : List String := []
deriving Repr, Inhabited

/-- Reads the header of a table after its first bracket. -/
def header? (p : Progress) (s : List Char) : Option (Progress × List Char) :=
  let (element, s) := match s with
    | '[' :: s => (true, s)
    | s => (false, s)
  (key? (s.length + 1) s).bind fun (path, s) =>
    match element, s with
    | false, ']' :: s => (Table.define? path p.root).map fun root => (⟨root, path⟩, s)
    | true, ']' :: ']' :: s => (Table.defineElement? path p.root).map fun root => (⟨root, path⟩, s)
    | _, _ => none

/-- Reads a key and its value. -/
def entry? (p : Progress) (s : List Char) : Option (Progress × List Char) :=
  (key? (s.length + 1) s).bind fun (path, s) =>
    match s with
    | '=' :: s =>
      let s := skipBlanks s
      (value? (s.length + 1) s).bind fun (v, s) =>
        (Table.modify? (Table.insert? v path) p.path p.root).map fun root => ({ p with root }, s)
    | _ => none

/-- Reads lines to the end of the text. Each takes at least one character. -/
def lines? : Nat → Progress → List Char → Option Table
  | 0, _, _ => none
  | bound + 1, p, s =>
    let read : Option (Progress × List Char) :=
      match skipBlanks s with
      | '[' :: s => header? p s
      | c :: s =>
        if c == '#' || (afterNewLine? (c :: s)).isSome then some (p, c :: s) else entry? p (c :: s)
      | [] => some (p, [])
    read.bind fun (p, s) =>
      (skipComment? (skipBlanks s)).bind fun s =>
        match s with
        | [] => some p.root
        | s => (afterNewLine? s).bind fun s => lines? bound p s

/-- Reads a document. A byte order mark may stand before it. -/
def document? (text : String) : Option Table :=
  let s := match text.toList with
    | '\uFEFF' :: s => s
    | s => s
  lines? (s.length + 1) {} s

end MarkdownTree.Toml
