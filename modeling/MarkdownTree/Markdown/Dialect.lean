/-!
# Dialects of markdown

CommonMark, and what may be added to it.
-/

namespace MarkdownTree

/-- What can be added to CommonMark. -/
inductive Extension
  | tables
  | footnotes
  | strikethrough
  | taskLists
  | quoteLabels
deriving DecidableEq, Repr, Inhabited

/-- Which additions are read. -/
structure Dialect where
  gfm : Bool := true
  footnotes : Bool := true
deriving DecidableEq, Repr, Inhabited

/-- The additions of a dialect. -/
def Dialect.extensions (d : Dialect) : List Extension :=
  (if d.gfm then [.tables] else []) ++ (if d.footnotes then [.footnotes] else []) ++
    (if d.gfm then [.strikethrough, .taskLists, .quoteLabels] else [])

/-- Whether a dialect has an addition. -/
def Dialect.has (d : Dialect) (e : Extension) : Bool :=
  d.extensions.contains e

/-- How markdown is made into a document: the dialect, and whether the last paragraph is marked to
fade out. -/
structure ParseOptions extends Dialect where
  fadeOut : Bool := false
deriving DecidableEq, Repr, Inhabited

end MarkdownTree
