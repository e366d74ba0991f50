import MarkdownTree.Main
import MarkdownTree.Log
import MarkdownTree.Proofs.Tree.Arena
import MarkdownTree.Proofs.Tree.Zipper
import MarkdownTree.Proofs.Assembly.Forest
import MarkdownTree.Proofs.Assembly.Translation
import MarkdownTree.Proofs.Layout.Brackets
import MarkdownTree.Proofs.Render.Default
import MarkdownTree.Proofs.Tree.Spans
import MarkdownTree.Proofs.Tree.Tables
import MarkdownTree.Proofs.Layout.Denotation
import MarkdownTree.Proofs.Assembly.Definitions
import MarkdownTree.Proofs.Tree.Clean
import MarkdownTree.Proofs.Layout.Shown
import MarkdownTree.Proofs.Assembly.Grammar
import MarkdownTree.Proofs.Render.Clean
import MarkdownTree.Proofs.Render.Text
import MarkdownTree.Proofs.Layout.Steps
import MarkdownTree.Proofs.Layout.Preorder
import MarkdownTree.Proofs.Layout.Grammar
import MarkdownTree.Proofs.Layout.Silence
import MarkdownTree.Proofs.Render.Recorded
import MarkdownTree.Proofs.Render.Bracketed
import MarkdownTree.Proofs.Tree.Order
import MarkdownTree.Proofs.Render.Dispatch
import MarkdownTree.Proofs.Render.Agenda
import MarkdownTree.Proofs.Render.Depth
import MarkdownTree.Proofs.Tree.Kinds
import MarkdownTree.Proofs.Tree.Mark
import MarkdownTree.Proofs.Assembly.Balance
import MarkdownTree.Proofs.Assembly.Inserted
import MarkdownTree.Proofs.Assembly.Interleaved
import MarkdownTree.Proofs.Assembly.Insertion
import MarkdownTree.Proofs.Render.Trace
import MarkdownTree.Proofs.Render.HigherLimit
import MarkdownTree.Proofs.Render.Delegating
import MarkdownTree.Proofs.Render.Silent
import MarkdownTree.Proofs.Render.Descending
import MarkdownTree.Proofs.Tree.Subtrees
import MarkdownTree.Proofs.Tree.Fragments
import MarkdownTree.Proofs.Assembly.Tally
import MarkdownTree.Proofs.Assembly.Structure
import MarkdownTree.Proofs.Assembly.Kept
import MarkdownTree.Proofs.Assembly.TableShape
import MarkdownTree.Proofs.Text.Lines
import MarkdownTree.Proofs.Tree.Outline
import MarkdownTree.Proofs.Layout.Margins
import MarkdownTree.Proofs.Layout.Numbering
import MarkdownTree.Proofs.Render.TableParts
import MarkdownTree.Proofs.Layout.Repair
import MarkdownTree.Proofs.Tree.Shape
import MarkdownTree.Proofs.Layout.Faded
import MarkdownTree.Proofs.Render.Fading
import MarkdownTree.Proofs.Render.Positions
import MarkdownTree.Proofs.Config.Precedence
import MarkdownTree.Proofs.Assembly.Alignment
