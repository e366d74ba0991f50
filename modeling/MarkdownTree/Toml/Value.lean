/-!
# TOML values

A table remembers how it was defined, because that decides what may be added to it.

* `Value` — values
* `Table.insert?` — adds a value under a dotted key
* `Table.define?`, `Table.defineElement?` — what the headers of tables and of arrays of tables do
-/

namespace MarkdownTree.Toml

/-- How a table was defined. -/
inductive Form
  /-- By a header of its own, or as an element of an array of tables. -/
  | header
  /-- By the header of a table in it. -/
  | implied
  /-- By a dotted key. -/
  | dotted
  /-- In braces. -/
  | inline
deriving DecidableEq, Repr, Inhabited

/-- A value. What floats and dates say is not kept. The tables of an array of tables are newest
first. -/
inductive Value
  | text (s : String)
  | integer (n : Int)
  | float
  | boolean (b : Bool)
  | date
  | array (items : List Value)
  | tables (items : List (List (String × Value)))
  | table (form : Form) (entries : List (String × Value))
deriving Repr, Inhabited

/-- The entries of a table, in source order. -/
abbrev Table := List (String × Value)

namespace Table

/-- Replaces the value of a key, or adds the key. -/
def set (t : Table) (key : String) (v : Value) : Table :=
  match t with
  | [] => [(key, v)]
  | (k, w) :: t => if k == key then (k, v) :: t else (k, w) :: set t key v

/-- Changes the table at a path of keys of headers. Tables on the way that do not exist are
implied. In an array of tables the newest one is meant. -/
def modify? (f : Table → Option Table) : List String → Table → Option Table
  | [], t => f t
  | key :: path, t =>
    match t.lookup key with
    | none => (modify? f path []).map fun u => t ++ [(key, .table .implied u)]
    | some (.table .inline _) => none
    | some (.table form u) => (modify? f path u).map fun u => t.set key (.table form u)
    | some (.tables (u :: us)) => (modify? f path u).map fun u => t.set key (.tables (u :: us))
    | some _ => none

/-- Adds a value under a new key. -/
def add? (t : Table) (key : String) (v : Value) : Option Table :=
  match t.lookup key with
  | none => some (t ++ [(key, v)])
  | some _ => none

/-- Adds a value under a dotted key. The tables of a dotted key are its own. -/
def insert? (v : Value) : List String → Table → Option Table
  | [], _ => none
  | [key], t => t.add? key v
  | key :: path, t =>
    match t.lookup key with
    | none => (insert? v path []).map fun u => t ++ [(key, .table .dotted u)]
    | some (.table .dotted u) => (insert? v path u).map fun u => t.set key (.table .dotted u)
    | some _ => none

/-- Defines a table by its header. It may be implied before, but not defined. -/
def define? (path : List String) (t : Table) : Option Table :=
  match path.getLast? with
  | none => none
  | some key =>
    modify? (fun t =>
      match t.lookup key with
      | none => some (t ++ [(key, .table .header [])])
      | some (.table .implied u) => some (t.set key (.table .header u))
      | some _ => none) path.dropLast t

/-- Defines one more element of an array of tables by its header. -/
def defineElement? (path : List String) (t : Table) : Option Table :=
  match path.getLast? with
  | none => none
  | some key =>
    modify? (fun t =>
      match t.lookup key with
      | none => some (t ++ [(key, .tables [[]])])
      | some (.tables us) => some (t.set key (.tables ([] :: us)))
      | some _ => none) path.dropLast t

end Table

end MarkdownTree.Toml
