import MarkdownTree.Layout.Basic

/-!
# Sink calls

Rendering drives a sink: it makes calls that emit a block, or that open or close a container for
the blocks to come. A sink is a state with one step per call, so the same pass can record its
calls or build a layout from them.
-/

namespace MarkdownTree

/-- A call that the renderer makes on its output. Texts and tables name the node they show. -/
inductive Call
  | quoteStart
  | quoteEnd
  | rule
  | headingStart (level : Nat)
  | headingEnd
  | code (language : Option String) (text : String)
  | listStart (kind : ListKind) (startIndex : Int)
  /-- `index` counts the items of the list from zero. -/
  | itemStart (index : Nat)
  | itemEnd
  | listEnd
  | empty
  | text (source : NodeId) (fadeOut : Bool)
  | run (text : String)
  | html (literal : String)
  | table (root : NodeId)
deriving DecidableEq, Repr, Inhabited

/-- What a state does with calls on the nodes of a document. -/
class Sink (σ : Type) where
  emit : Document → σ → Call → σ

/-- The sink that records the calls, newest first. -/
structure Recording where
  newestFirst : List Call := []
deriving DecidableEq, Repr, Inhabited

namespace Recording

/-- The recorded calls in order. -/
def calls (r : Recording) : List Call :=
  r.newestFirst.reverse

instance : Sink Recording :=
  ⟨fun _ r call => ⟨call :: r.newestFirst⟩⟩

end Recording

end MarkdownTree
