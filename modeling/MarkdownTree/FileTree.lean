/-!
# File trees

Files and directories below a root. A path is a list of names from the root; a path in text has
slashes between its names, and is read from a working directory unless it begins with a slash.

* `FileTree.insert` — adds a file or directory, and the directories above it
* `FileTree.resolve` — what a path in text leads to
* `FileTree.readText` — the text of a file
-/

namespace MarkdownTree

/-- Names from the root on. -/
abbrev Path := List String

/-- The names of a path in text. It begins with no slash, so that the text is not to be resolved. -/
def Path.text (path : Path) : String :=
  "/".intercalate path

/-- What a path leads to. -/
inductive Entry
  | file (contents : ByteArray)
  | directory
deriving Inhabited

/-- Why a file cannot be read. -/
inductive FileError
  | notFound
  | notDirectory
  | isDirectory
  | nameTooLong
  | nulInPath
  | invalidUtf8
deriving DecidableEq, Repr, Inhabited

/-- What is said about a file that cannot be read. -/
def FileError.message : FileError → String
  | .notFound => "No such file or directory (os error 2)"
  | .notDirectory => "Not a directory (os error 20)"
  | .isDirectory => "Is a directory (os error 21)"
  | .nameTooLong => "File name too long (os error 36)"
  | .nulInPath => "file name contained an unexpected NUL byte"
  | .invalidUtf8 => "stream did not contain valid UTF-8"

/-- Files and directories with their paths. The root is always a directory and is not listed. -/
structure FileTree where
  entries : List (Path × Entry) := []
deriving Inhabited

namespace FileTree

/-- What stands at a path. -/
def entry? (t : FileTree) (path : Path) : Option Entry :=
  if path.isEmpty then some .directory else t.entries.lookup path

/-- Adds a directory, unless something stands there already. -/
def insertDirectory (t : FileTree) (path : Path) : FileTree :=
  match t.entry? path with
  | some _ => t
  | none => { t with entries := t.entries ++ [(path, .directory)] }

/-- Adds a file or directory, and the directories above it. -/
def insert (t : FileTree) (path : Path) (e : Entry) : FileTree :=
  let t := ((List.range path.length).map path.take).foldl insertDirectory t
  match t.entry? path with
  | some _ => t
  | none => { t with entries := t.entries ++ [(path, e)] }

/-- The names of a path in text. -/
def names (path : String) : List String :=
  path.splitOn "/"

/-- The path of a path in text, its names as they stand. -/
def split (path : String) : Path :=
  (names path).filter fun name => name != "" && name != "."

/-- Follows names from a path on, each of which must be that of a directory for more to follow. An
empty name and a full stop stay, two full stops go up. -/
def follow (t : FileTree) (here : Path) : List String → Except FileError (Path × Entry)
  | [] =>
    match t.entry? here with
    | some e => .ok (here, e)
    | none => .error .notFound
  | name :: names =>
    match t.entry? here with
    | none => .error .notFound
    | some (.file _) => .error .notDirectory
    | some .directory =>
      if name.utf8ByteSize > 255 then .error .nameTooLong
      else if name == "" || name == "." then follow t here names
      else if name == ".." then follow t here.dropLast names
      else follow t (here ++ [name]) names

/-- What a path in text leads to from a working directory. The empty path leads nowhere. -/
def resolve (t : FileTree) (cwd : Path) (path : String) : Except FileError (Path × Entry) :=
  if path.contains '\x00' then .error .nulInPath
  else if path.isEmpty then .error .notFound
  else if path.utf8ByteSize > 4095 then .error .nameTooLong
  else t.follow (if path.startsWith "/" then [] else cwd) (names path)

/-- The text of an entry. -/
def Entry.readText : Entry → Except FileError String
  | .file contents =>
    match String.fromUTF8? contents with
    | some text => .ok text
    | none => .error .invalidUtf8
  | .directory => .error .isDirectory

/-- The text of a file. -/
def readText (t : FileTree) (cwd : Path) (path : String) : Except FileError String :=
  (t.resolve cwd path).bind fun (_, e) => Entry.readText e

end FileTree

end MarkdownTree
