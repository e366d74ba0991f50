import MarkdownTree.FileTree
import MarkdownTree.Markdown.Dialect

/-!
# Configuration

What a configuration holds, where its values come from, and which of them are allowed.

* `Config` — a configuration
* `FileSettings`, `CommandSettings` — what a file and a command line set
* `Config.validate` — the limits of the depth
-/

namespace MarkdownTree

/-- What the command `render` prints. -/
inductive Format
  | text
  | json
  | ast
deriving DecidableEq, Repr, Inhabited

/-- The name of a format. -/
def Format.name : Format → String
  | .text => "text"
  | .json => "json"
  | .ast => "ast"

/-- The format with a name. -/
def Format.ofName? (name : String) : Option Format :=
  [Format.text, .json, .ast].find? (·.name == name)

/-- A configuration file: one that was asked for by a path in text, or one that was found, by its
names from the root. -/
inductive ConfigFile
  | asked (path : String)
  | found (path : Path)
deriving DecidableEq, Repr, Inhabited

/-- How a configuration file is named. -/
def ConfigFile.text : ConfigFile → String
  | .asked path => path
  | .found path => path.text

/-- A configuration, and the file it was read from. -/
structure Config where
  gfm : Bool := true
  footnotes : Bool := true
  maxDepth : Nat := 256
  fadeOut : Bool := false
  format : Format := .text
  file : Option ConfigFile := none
deriving DecidableEq, Repr, Inhabited

/-- What a configuration file sets. -/
structure FileSettings where
  gfm : Option Bool := none
  footnotes : Option Bool := none
  maxDepth : Option Nat := none
  fadeOut : Option Bool := none
  format : Option Format := none
deriving DecidableEq, Repr, Inhabited

/-- What a command line sets. -/
structure CommandSettings where
  format : Option Format := none
  maxDepth : Option Nat := none
  fadeOut : Option Bool := none
  gfm : Option Bool := none
deriving DecidableEq, Repr, Inhabited

/-- How the depth of a configuration is out of range. -/
inductive DepthError
  | zero
  | tooLarge
deriving DecidableEq, Repr, Inhabited

/-- Why there is no configuration. A file that cannot be decoded has an error of the decoder, of
type `ε`. -/
inductive ConfigError (ε : Type := Unit)
  | notFound (path : String)
  | file (e : FileError)
  | syntaxError {e : ε}
  | depth (e : DepthError)
deriving DecidableEq, Repr, Inhabited

/-- The largest depth of nesting that may be asked for. -/
def maxRenderDepth : Nat := 1024

/-- What is said about a depth out of range. -/
def DepthError.message : DepthError → String
  | .zero => "render.max_depth must be greater than 0"
  | .tooLarge => "render.max_depth cannot exceed " ++ toString maxRenderDepth

/-- What is said about an error. What the decoder says is left out. -/
def ConfigError.message {ε : Type} : ConfigError ε → String
  | .notFound path => "Configuration file not found: " ++ path
  | .file e => "I/O error: " ++ e.message
  | .syntaxError => "TOML parse error"
  | .depth e => "Configuration error: " ++ e.message

namespace Config

/-- A configuration with what a file sets. -/
def ofFile (s : FileSettings) (file : ConfigFile) : Config :=
  let c : Config := {}
  { gfm := s.gfm.getD c.gfm
    footnotes := s.footnotes.getD c.footnotes
    maxDepth := s.maxDepth.getD c.maxDepth
    fadeOut := s.fadeOut.getD c.fadeOut
    format := s.format.getD c.format
    file := some file }

/-- A configuration with what a command line sets. -/
def override (c : Config) (s : CommandSettings) : Config :=
  { c with
    format := s.format.getD c.format
    maxDepth := s.maxDepth.getD c.maxDepth
    fadeOut := s.fadeOut.getD c.fadeOut
    gfm := s.gfm.getD c.gfm }

/-- The name of the file that a configuration was read from. -/
def source (c : Config) : Option String :=
  c.file.map ConfigFile.text

/-- A configuration, if its depth is in range. -/
def validate {ε : Type} (c : Config) : Except (ConfigError ε) Config :=
  if c.maxDepth = 0 then .error (.depth .zero)
  else if c.maxDepth > maxRenderDepth then .error (.depth .tooLarge)
  else .ok c

/-- How markdown is to be parsed. -/
def parseOptions (c : Config) : ParseOptions :=
  { gfm := c.gfm, footnotes := c.footnotes, fadeOut := c.fadeOut }

end Config

end MarkdownTree
