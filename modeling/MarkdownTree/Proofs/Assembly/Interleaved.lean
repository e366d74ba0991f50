import MarkdownTree.Proofs.Assembly.Contribution
import MarkdownTree.Proofs.Assembly.Inserted

/-!
# Forests with definitions between them

A definition has a position in the source, and so has every event. Where the ranges of a forest are
consistent, a definition lies inside of some tags and between the trees that these contain. This
module says what a forest with definitions stands for, with no stack and nothing pending.

* `EventTree.Ranged` — consistent ranges.
* `EventTree.Houses` — the innermost tag around each definition has a node that takes definitions.
* `EventTree.parts` — what a container holds in source order: pieces and definitions.
* `Part.arrange` — the children of a container. A definition stands between what is in front of it
  and what is behind it; inside of a run of inline content it stands behind the run.
* `EventTree.translateWith` — the tree of a forest with definitions.
* `EventTree.Unobstructed` — definitions in a run of inline content get out of it at its end.
-/

namespace MarkdownTree

theorem NodeKind.acceptsDefinitions_of_acceptsInline {k : NodeKind} (h : k.acceptsInline = true) :
    k.acceptsDefinitions = false := by
  unfold acceptsInline at h
  split at h
  · rfl
  · rfl
  · rfl
  · cases h
  · rfl

/-! ## Definitions in source order -/

namespace Definition

/-- The node of a definition. -/
def tree (d : Definition) : Tree :=
  .node d.kind []

/-- The leading definitions that start before a position. -/
def upTo (position : Nat) (ds : List Definition) : List Definition :=
  ds.takeWhile fun d => d.first < position

/-- The definitions behind these. -/
def onwards (position : Nat) (ds : List Definition) : List Definition :=
  ds.dropWhile fun d => d.first < position

/-- Each definition starts behind the one before it. -/
def InOrder (ds : List Definition) : Prop :=
  ds.Pairwise fun d e => d.first < e.first

@[simp] theorem upTo_nil (position : Nat) : upTo position [] = [] := rfl

@[simp] theorem onwards_nil (position : Nat) : onwards position [] = [] := rfl

theorem upTo_append_onwards (position : Nat) (ds : List Definition) :
    upTo position ds ++ onwards position ds = ds :=
  List.takeWhile_append_dropWhile

theorem upTo_append_onwards_append (position : Nat) (ds rest : List Definition) :
    upTo position ds ++ (onwards position ds ++ rest) = ds ++ rest := by
  rw [← List.append_assoc, upTo_append_onwards]

theorem lt_of_mem_upTo {position : Nat} {ds : List Definition} {d : Definition}
    (h : d ∈ upTo position ds) : d.first < position :=
  of_decide_eq_true (List.all_eq_true.mp List.all_takeWhile d h)

theorem le_of_mem_onwards {position : Nat} {ds : List Definition} (hds : InOrder ds)
    {d : Definition} (h : d ∈ onwards position ds) : position ≤ d.first := by
  induction ds with
  | nil => cases h
  | cons e ds ih =>
    obtain ⟨he, hds⟩ := List.pairwise_cons.mp hds
    rw [onwards, List.dropWhile_cons] at h
    split at h
    · exact ih hds h
    · next hposition =>
      have hle : position ≤ e.first := Nat.le_of_not_lt fun hlt => hposition (decide_eq_true hlt)
      rcases List.mem_cons.mp h with rfl | h
      · exact hle
      · exact Nat.le_trans hle (Nat.le_of_lt (he d h))

theorem upTo_append_of_lt {position : Nat} {ds : List Definition}
    (h : ∀ d ∈ ds, d.first < position) (rest : List Definition) :
    upTo position (ds ++ rest) = ds ++ upTo position rest :=
  List.takeWhile_append_of_pos fun d hd => decide_eq_true (h d hd)

theorem onwards_append_of_lt {position : Nat} {ds : List Definition}
    (h : ∀ d ∈ ds, d.first < position) (rest : List Definition) :
    onwards position (ds ++ rest) = onwards position rest :=
  List.dropWhile_append_of_pos fun d hd => decide_eq_true (h d hd)

/-- Where definitions start before a position and all behind them do not, the split is there. -/
theorem split_append {position : Nat} {ds rest : List Definition}
    (hds : ∀ d ∈ ds, d.first < position) (hrest : ∀ d ∈ rest, position ≤ d.first) :
    upTo position (ds ++ rest) = ds ∧ onwards position (ds ++ rest) = rest := by
  rw [upTo_append_of_lt hds, onwards_append_of_lt hds]
  cases rest with
  | nil => exact ⟨List.append_nil _, rfl⟩
  | cons d rest =>
    have hd : ¬ d.first < position := Nat.not_lt.mpr (hrest d List.mem_cons_self)
    simp [upTo, onwards, hd]

theorem InOrder.upTo {ds : List Definition} (h : InOrder ds) (position : Nat) :
    InOrder (upTo position ds) :=
  h.sublist (List.takeWhile_sublist _)

theorem InOrder.onwards {ds : List Definition} (h : InOrder ds) (position : Nat) :
    InOrder (onwards position ds) :=
  h.sublist (List.dropWhile_sublist _)

end Definition

/-! ## What a container holds -/

/-- What stands in a container. -/
inductive Part
  | piece (p : Piece)
  | definition (d : Definition)
deriving Repr, Inhabited

/-- The trees of some parts with every maximal run of inline trees wrapped in a paragraph. The run
in front of the parts is `run`, and `held` are definitions inside of it: they stand behind its
paragraph. -/
def Part.arrange (run held : List Tree) : List Part → List Tree
  | [] => Piece.wrap run ++ held
  | .piece (.inline t) :: ps => arrange (run ++ [t]) held ps
  | .piece (.block t) :: ps => Piece.wrap run ++ held ++ t :: arrange [] [] ps
  | .piece .cut :: ps => Piece.wrap run ++ held ++ arrange [] [] ps
  | .definition d :: ps =>
    match run with
    | [] => held ++ d.tree :: arrange [] [] ps
    | _ :: _ => arrange run (held ++ [d.tree]) ps

/-- The pieces among some parts. -/
def Part.pieces (ps : List Part) : List Piece :=
  ps.filterMap fun
    | .piece p => some p
    | .definition _ => none

/-- The node of a container with some parts inside it. Only a container that takes definitions has
any. -/
def Part.fill (kind : NodeKind) (ps : List Part) : Tree :=
  if kind.acceptsDefinitions then .node kind (arrange [] [] ps) else .fill kind (pieces ps)

/-- Whether a tag has a node that takes definitions. -/
def Tag.Role.acceptsDefinitions : Tag.Role → Bool
  | .block b => (NodeKind.block b).acceptsDefinitions
  | _ => false

/-- Whether a piece only ends a run. -/
def Piece.isCut : Piece → Bool
  | cut => true
  | inline _ | block _ => false

namespace EventTree

/-- Where the first event of a tree starts. -/
def first : EventTree → Nat
  | leaf _ range => range.first
  | element _ opening _ _ => opening.first

/-- Where the last event of a tree ends. -/
def last : EventTree → Nat
  | leaf _ range => range.last
  | element _ _ closing _ => closing.last

/-- Definitions inside of a tree start before this; there is none inside of a leaf. -/
def reach : EventTree → Nat
  | leaf _ range => range.first
  | element _ _ closing _ => closing.last

@[simp] theorem reach_element (tag : Tag) (opening closing : SourceRange)
    (content : List EventTree) : (element tag opening closing content).reach = closing.last := rfl

mutual

/-- Whether the ranges of a tree are consistent: both events of a tag cover the same range, and it
contains those of the content. -/
def Ranged : EventTree → Prop
  | leaf _ range => range.first ≤ range.last
  | element _ opening closing content =>
    opening = closing ∧ RangedAll opening.first opening.last content

/-- Whether sibling trees have consistent ranges, one behind the other, between two positions. -/
def RangedAll (low high : Nat) : List EventTree → Prop
  | [] => low ≤ high
  | t :: ts => low ≤ t.first ∧ t.Ranged ∧ RangedAll t.last high ts

end

mutual

/-- What a tree contributes to the container around it, with definitions inside of the tree. -/
def piecesWith (ds : List Definition) : EventTree → List Piece
  | leaf e _ => e.pieces
  | element tag _ _ content =>
    match tag.role with
    | .block b => [.block (Part.fill (.block b) (parts ds content))]
    | .inline i => [.inline (Part.fill (.inline i) (parts ds content))]
    | .literal kind =>
      [.block (.node (.block (Assembly.literalBlock kind (literalText content))) [])]
    | .transparent => .cut :: (Part.pieces (parts ds content) ++ [.cut])
    | .table alignments =>
      [.block (.node (.block (.tableRoot alignments))
        (Tree.tableParts ((Part.pieces (parts ds content)).filterMap Piece.tree?)))]
    | .head =>
      [.block (.node (.block .tableHeader) [Part.fill (.block .tableRow) (parts ds content)])]
    | .row => [.block (Part.fill (.block .tableRow) (parts ds content))]
    | .cell => [.block (Part.fill (.block .tableCell) (parts ds content))]
    | .metadata => []

/-- What a container holds in source order, from its content and the definitions in it. -/
def parts (ds : List Definition) : List EventTree → List Part
  | [] => ds.map .definition
  | t :: ts =>
    let here := Definition.onwards t.first ds
    (Definition.upTo t.first ds).map .definition ++
      ((piecesWith (Definition.upTo t.reach here) t).map .piece ++
        parts (Definition.onwards t.reach here) ts)

end

/-- The tree that a forest with definitions stands for. -/
def translateWith (ds : List Definition) (forest : List EventTree) : Tree :=
  Part.fill (.block .document) (parts ds forest)

mutual

/-- Whether the definitions inside of a tree lie directly in containers that take them. -/
def Houses (ds : List Definition) : EventTree → Prop
  | leaf _ _ => ds = []
  | element tag _ _ content => HousesAll tag.role.acceptsDefinitions ds content

/-- The same for the content of a container that takes definitions or does not. -/
def HousesAll (accepts : Bool) (ds : List Definition) : List EventTree → Prop
  | [] => ds = [] ∨ accepts = true
  | t :: ts =>
    let here := Definition.onwards t.first ds
    (Definition.upTo t.first ds = [] ∨ accepts = true) ∧
      Houses (Definition.upTo t.reach here) t ∧
      HousesAll accepts (Definition.onwards t.reach here) ts

end

/-- Whether a run of inline content is open behind a tree, by whether one is open before. -/
def leavesRun (run : Bool) : EventTree → Bool
  | leaf e _ => e.inline?.isSome
  | element tag _ _ _ =>
    match tag.role with
    | .inline _ => true
    | .metadata => run
    | _ => false

mutual

/-- Whether no tag in a tree takes definitions. -/
def refuses : EventTree → Bool
  | leaf _ _ => true
  | element tag _ _ content => !tag.role.acceptsDefinitions && refusesAll content

/-- Whether no tag in a forest takes definitions. -/
def refusesAll : List EventTree → Bool
  | [] => true
  | t :: ts => t.refuses && refusesAll ts

end

/-- Whether definitions in a run get out of it at its end: up to there nothing takes them, and the
run lasts to the end of the container or ends with a tag that adds nothing. -/
def letsOut : List EventTree → Bool
  | [] => true
  | t :: ts => t.refuses && if t.leavesRun true then letsOut ts else t.pieces.all Piece.isCut

mutual

/-- Whether every definition inside of a tree that lies behind bare inline content gets out of the
run in front of what follows the run. -/
def Unobstructed (ds : List Definition) : EventTree → Prop
  | leaf _ _ => True
  | element _ _ _ content => UnobstructedAll false ds content

/-- The same for the content of a container, behind an open run or not. -/
def UnobstructedAll (run : Bool) (ds : List Definition) : List EventTree → Prop
  | [] => True
  | t :: ts =>
    let here := Definition.onwards t.first ds
    (run = true → Definition.upTo t.first ds = [] ∨ letsOut (t :: ts) = true) ∧
      Unobstructed (Definition.upTo t.reach here) t ∧
      UnobstructedAll (t.leavesRun run) (Definition.onwards t.reach here) ts

end

/-! ## Positions in a forest -/

mutual

theorem Ranged.le : ∀ {t : EventTree}, t.Ranged → t.first ≤ t.last
  | leaf _ _, h => h
  | element _ opening closing content, h => by
    obtain ⟨rfl, hcontent⟩ := h
    exact hcontent.le

theorem RangedAll.le : ∀ {ts : List EventTree} {low high : Nat}, RangedAll low high ts → low ≤ high
  | [], _, _, h => h
  | _ :: _, _, _, ⟨hlow, ht, hts⟩ => Nat.le_trans hlow (Nat.le_trans ht.le hts.le)

end

theorem Ranged.reach_le {t : EventTree} (h : t.Ranged) : t.reach ≤ t.last := by
  cases t with
  | leaf e range => exact h
  | element tag opening closing content => exact Nat.le_refl _

end EventTree

end MarkdownTree
