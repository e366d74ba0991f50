import MarkdownTree.Proofs.Layout.Steps

/-!
# The grammar of brackets

Whether a sequence is well-bracketed depends only on the parts that its elements play: an element
stands for blocks, starts a container, ends one, or does not count. The grammar is stated for any
kind of element, since both the calls on a sink and the actions of a composer are read this way.

* `Bracketed`, `BracketedItems` — the grammar: blocks, and the items between the ends of a list.
* `Call.bracket` — the part a call plays.
* `bracketed_iff_exists_parses` — calls are well-bracketed if and only if they have a parse tree.
-/

namespace MarkdownTree

/-- The part that an element of a sequence plays. -/
inductive Bracket
  /-- Some blocks, complete in themselves. -/
  | blocks
  | start (container : ContainerKind)
  | stop (container : ContainerKind)
deriving DecidableEq, Repr, Inhabited

/-- The part a call plays. -/
def Call.bracket : Call → Option Bracket
  | .quoteStart => some (.start .quote)
  | .quoteEnd => some (.stop .quote)
  | .headingStart _ => some (.start .heading)
  | .headingEnd => some (.stop .heading)
  | .listStart _ _ => some (.start .list)
  | .listEnd => some (.stop .list)
  | .itemStart _ => some (.start .item)
  | .itemEnd => some (.stop .item)
  | .rule | .code _ _ | .empty | .text _ _ | .run _ | .html _ | .table _ => some .blocks

section

variable {α : Type} (role : α → Option Bracket)

mutual

/-- Sequences that are well-bracketed: blocks one after the other, where quotes and headings hold
blocks, and lists hold items. Elements without a part may stand anywhere. -/
inductive Bracketed : List α → Prop
  | nil : Bracketed []
  | skip {a : α} {rest : List α} :
      role a = none → Bracketed rest → Bracketed (a :: rest)
  | blocks {a : α} {rest : List α} :
      role a = some .blocks → Bracketed rest → Bracketed (a :: rest)
  | quote {a z : α} {inner rest : List α} :
      role a = some (.start .quote) → Bracketed inner → role z = some (.stop .quote) →
      Bracketed rest → Bracketed (a :: (inner ++ z :: rest))
  | heading {a z : α} {inner rest : List α} :
      role a = some (.start .heading) → Bracketed inner → role z = some (.stop .heading) →
      Bracketed rest → Bracketed (a :: (inner ++ z :: rest))
  | list {a z : α} {inner rest : List α} :
      role a = some (.start .list) → BracketedItems inner → role z = some (.stop .list) →
      Bracketed rest → Bracketed (a :: (inner ++ z :: rest))

/-- Sequences that are well-bracketed between the start and the end of a list. -/
inductive BracketedItems : List α → Prop
  | nil : BracketedItems []
  | skip {a : α} {rest : List α} :
      role a = none → BracketedItems rest → BracketedItems (a :: rest)
  | item {a z : α} {inner rest : List α} :
      role a = some (.start .item) → Bracketed inner → role z = some (.stop .item) →
      BracketedItems rest → BracketedItems (a :: (inner ++ z :: rest))

end

end

namespace Bracketed

variable {α : Type} {role : α → Option Bracket}

theorem append : ∀ {as bs : List α}, Bracketed role as → Bracketed role bs →
    Bracketed role (as ++ bs)
  | _, _, .nil, h' => h'
  | _, _, .skip ha h, h' => .skip ha (h.append h')
  | _, _, .blocks ha h, h' => .blocks ha (h.append h')
  | _, _, .quote ha hi hz h, h' => by
    rw [List.cons_append, List.append_assoc, List.cons_append]
    exact .quote ha hi hz (h.append h')
  | _, _, .heading ha hi hz h, h' => by
    rw [List.cons_append, List.append_assoc, List.cons_append]
    exact .heading ha hi hz (h.append h')
  | _, _, .list ha hi hz h, h' => by
    rw [List.cons_append, List.append_assoc, List.cons_append]
    exact .list ha hi hz (h.append h')

/-- One element that stands for blocks. -/
theorem single {a : α} (h : role a = some .blocks) : Bracketed role [a] :=
  .blocks h .nil

end Bracketed

theorem ParsesItems.append {doc : Document} : ∀ {calls calls' : List Call}
    {items items' : List (List LayoutBlock)}, ParsesItems doc calls items →
      ParsesItems doc calls' items' → ParsesItems doc (calls ++ calls') (items ++ items')
  | _, _, _, _, .nil, h' => h'
  | _, _, _, _, .item hi h, h' => by
    rw [List.cons_append, List.append_assoc, List.cons_append, List.cons_append]
    exact .item hi (h.append h')

/-! ## The calls that play a part -/

/-- The call that ends a container. -/
def ContainerKind.stop : ContainerKind → Call
  | .quote => .quoteEnd
  | .heading => .headingEnd
  | .list => .listEnd
  | .item => .itemEnd

namespace Call

theorem bracket_ne_none (call : Call) : call.bracket ≠ none := by
  cases call <;> simp [bracket]

/-- The calls that stand for blocks are those that add one by themselves. -/
theorem bracket_eq_blocks_iff {doc : Document} {call : Call} :
    call.bracket = some .blocks ↔ ∃ block, call.block? doc = some block := by
  cases call <;> simp [bracket, block?]

theorem eq_stop_of_bracket {call : Call} {kind : ContainerKind}
    (h : call.bracket = some (.stop kind)) : call = kind.stop := by
  cases call <;> cases h <;> rfl

theorem eq_stop_of_closed? {call : Call} {kind : ContainerKind}
    (h : call.closed? = some kind) : call = kind.stop := by
  cases call <;> cases h <;> rfl

theorem eq_quoteStart_of_bracket {call : Call} (h : call.bracket = some (.start .quote)) :
    call = .quoteStart := by
  cases call <;> cases h
  rfl

theorem exists_headingStart_of_bracket {call : Call}
    (h : call.bracket = some (.start .heading)) : ∃ level, call = .headingStart level := by
  cases call <;> cases h
  exact ⟨_, rfl⟩

theorem exists_listStart_of_bracket {call : Call} (h : call.bracket = some (.start .list)) :
    ∃ kind startIndex, call = .listStart kind startIndex := by
  cases call <;> cases h
  exact ⟨_, _, rfl⟩

theorem exists_itemStart_of_bracket {call : Call} (h : call.bracket = some (.start .item)) :
    ∃ index, call = .itemStart index := by
  cases call <;> cases h
  exact ⟨_, rfl⟩

end Call

/-! ## Parse trees -/

mutual

/-- Calls that have a parse tree are well-bracketed. -/
theorem Parses.bracketed {doc : Document} : ∀ {calls : List Call} {blocks : List LayoutBlock},
    Parses doc calls blocks → Bracketed Call.bracket calls
  | _, _, .nil => .nil
  | _, _, .leaf hb h => .blocks (Call.bracket_eq_blocks_iff.mpr ⟨_, hb⟩) h.bracketed
  | _, _, .quote hi h => .quote rfl hi.bracketed rfl h.bracketed
  | _, _, .heading hi h => .heading rfl hi.bracketed rfl h.bracketed
  | _, _, .list hi h => .list rfl hi.bracketedItems rfl h.bracketed

theorem ParsesItems.bracketedItems {doc : Document} : ∀ {calls : List Call}
    {items : List (List LayoutBlock)}, ParsesItems doc calls items →
      BracketedItems Call.bracket calls
  | _, _, .nil => .nil
  | _, _, .item hi h => .item rfl hi.bracketed rfl h.bracketedItems

end

mutual

/-- Well-bracketed calls have a parse tree. -/
theorem Bracketed.exists_parses (doc : Document) : ∀ {calls : List Call},
    Bracketed Call.bracket calls → ∃ blocks, Parses doc calls blocks
  | _, .nil => ⟨[], .nil⟩
  | _, .skip ha _ => absurd ha (Call.bracket_ne_none _)
  | _, .blocks ha h => by
    obtain ⟨block, hb⟩ := Call.bracket_eq_blocks_iff.mp ha
    obtain ⟨blocks, h⟩ := h.exists_parses doc
    exact ⟨block :: blocks, .leaf hb h⟩
  | _, .quote ha hi hz h => by
    obtain rfl := Call.eq_quoteStart_of_bracket ha
    obtain rfl := Call.eq_stop_of_bracket hz
    obtain ⟨content, hi⟩ := hi.exists_parses doc
    obtain ⟨blocks, h⟩ := h.exists_parses doc
    exact ⟨.quote content :: blocks, .quote hi h⟩
  | _, .heading ha hi hz h => by
    obtain ⟨level, rfl⟩ := Call.exists_headingStart_of_bracket ha
    obtain rfl := Call.eq_stop_of_bracket hz
    obtain ⟨content, hi⟩ := hi.exists_parses doc
    obtain ⟨blocks, h⟩ := h.exists_parses doc
    exact ⟨.heading level content :: blocks, .heading hi h⟩
  | _, .list ha hi hz h => by
    obtain ⟨kind, startIndex, rfl⟩ := Call.exists_listStart_of_bracket ha
    obtain rfl := Call.eq_stop_of_bracket hz
    obtain ⟨items, hi⟩ := hi.exists_parsesItems doc
    obtain ⟨blocks, h⟩ := h.exists_parses doc
    exact ⟨.list kind startIndex items :: blocks, .list hi h⟩

theorem BracketedItems.exists_parsesItems (doc : Document) : ∀ {calls : List Call},
    BracketedItems Call.bracket calls → ∃ items, ParsesItems doc calls items
  | _, .nil => ⟨[], .nil⟩
  | _, .skip ha _ => absurd ha (Call.bracket_ne_none _)
  | _, .item ha hi hz h => by
    obtain ⟨index, rfl⟩ := Call.exists_itemStart_of_bracket ha
    obtain rfl := Call.eq_stop_of_bracket hz
    obtain ⟨content, hi⟩ := hi.exists_parses doc
    obtain ⟨items, h⟩ := h.exists_parsesItems doc
    exact ⟨content :: items, .item hi h⟩

end

/-- **Calls are well-bracketed if and only if they have a parse tree.** -/
theorem bracketed_iff_exists_parses {doc : Document} {calls : List Call} :
    Bracketed Call.bracket calls ↔ ∃ blocks, Parses doc calls blocks :=
  ⟨fun h => h.exists_parses doc, fun ⟨_, h⟩ => h.bracketed⟩

end MarkdownTree
