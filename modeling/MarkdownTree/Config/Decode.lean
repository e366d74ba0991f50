import MarkdownTree.Config.Basic
import MarkdownTree.Toml.Reader

/-!
# Configuration files

What a configuration file in TOML sets. It has three sections: `parser`, `render` and `output`. A
section is a table, where keys that nobody knows are passed over, or an array of its values in
order, of which the last ones may be missing. Values must have the right type.

* `FileSettings.ofToml?` — reads the values of a configuration file
* `FileSettings.decode?` — reads a configuration file
-/

namespace MarkdownTree

open Toml (Value)

namespace FileSettings

/-- A truth value. -/
def boolean? : Value → Option Bool
  | .boolean b => some b
  | _ => none

/-- A number without sign, of at most 64 bits. -/
def natural? : Value → Option Nat
  | .integer n => if 0 ≤ n ∧ n ≤ 0xFFFFFFFFFFFFFFFF then some n.toNat else none
  | _ => none

/-- A format: its name, or a table with the name as its only key and nothing in it. -/
def format? : Value → Option Format
  | .text name => Format.ofName? name
  | .table _ [(name, .array [])] => Format.ofName? name
  | .table _ [(name, .table _ [])] => Format.ofName? name
  | _ => none

/-- A value that may be missing, and must be read if it is there. -/
def optional {α : Type} (read : Value → Option α) : Option Value → Option (Option α)
  | none => some none
  | some v => (read v).map some

/-- The values of a section, in the order of its fields. A date is a table of its own. -/
def fields? (names : List String) : Option Value → Option (List (Option Value))
  | none => some (names.map fun _ => none)
  | some (.table _ entries) => some (names.map (entries.lookup ·))
  | some (.array items) => some (List.range names.length |>.map (items[·]?))
  | some (.tables items) =>
    some (List.range names.length |>.map fun i =>
      (items.reverse[i]?).map (.table .header))
  | some .date => some (names.map fun _ => none)
  | some _ => none

/-- Reads the values of a configuration file. -/
def ofToml? (root : List (String × Value)) : Option FileSettings := do
  let parser ← fields? ["gfm", "footnotes"] (root.lookup "parser")
  let render ← fields? ["max_depth", "fade_out_trailing_paragraph"] (root.lookup "render")
  let output ← fields? ["format"] (root.lookup "output")
  let field (section_ : List (Option Value)) (i : Nat) : Option Value := (section_[i]?).join
  some {
    gfm := ← optional boolean? (field parser 0)
    footnotes := ← optional boolean? (field parser 1)
    maxDepth := ← optional natural? (field render 0)
    fadeOut := ← optional boolean? (field render 1)
    format := ← optional format? (field output 0) }

/-- Reads a configuration file. What is wrong with it is not told. -/
def decode? (text : String) : Except Unit FileSettings :=
  match (Toml.document? text).bind ofToml? with
  | some s => .ok s
  | none => .error ()

end FileSettings

end MarkdownTree
