import MarkdownTree.Config.Basic

/-!
# Loading a configuration

A configuration comes from the file that is asked for, or else from the nearest file with the usual
name in the working directory and the directories above it, or else it is the default. What a
command line sets wins over the file.

* `FileTree.discover?` — the nearest configuration file
* `Config.load` — the configuration
-/

namespace MarkdownTree

/-- The usual name of a configuration file. -/
def configName : String := "mdwalk.toml"

/-- The paths above a path, with the path itself first. -/
def Path.upward (path : Path) : List Path :=
  ((List.range (path.length + 1)).map path.take).reverse

/-- Whether names, read from the root, lead to a file. -/
def FileTree.leadsToFile (t : FileTree) (path : Path) : Bool :=
  match t.follow [] path with
  | .ok (_, .file _) => true
  | _ => false

/-- The nearest configuration file at a path or above it. -/
def FileTree.discover? (t : FileTree) (start : Path) : Option Path :=
  (start.upward.map (· ++ [configName])).find? t.leadsToFile

namespace Config

variable {ε : Type}

/-- The configuration in an entry of a file tree. -/
def loadEntry (decode : String → Except ε FileSettings) (file : ConfigFile) (e : Entry) :
    Except (ConfigError ε) Config :=
  match FileTree.Entry.readText e with
  | .error e => .error (.file e)
  | .ok text =>
    match decode text with
    | .ok s => (ofFile s file).validate
    | .error e => .error (.syntaxError (e := e))

/-- The configuration without a command line. -/
def loadFile (decode : String → Except ε FileSettings) (t : FileTree) (cwd : Path)
    (path : Option String) : Except (ConfigError ε) Config :=
  match path with
  | some path =>
    match t.resolve cwd path with
    | .error _ => .error (.notFound path)
    | .ok (_, e) => loadEntry decode (.asked path) e
  | none =>
    match t.discover? cwd with
    | some found =>
      match t.follow [] found with
      | .error e => .error (.file e)
      | .ok (_, e) => loadEntry decode (.found found) e
    | none => .ok {}

/-- The configuration for a working directory, a file that is asked for, and a command line. -/
def load (decode : String → Except ε FileSettings) (t : FileTree) (cwd : Path)
    (path : Option String) (command : Option CommandSettings) : Except (ConfigError ε) Config :=
  (loadFile decode t cwd path).bind fun c =>
    match command with
    | some s => (c.override s).validate
    | none => .ok c

end Config

end MarkdownTree
