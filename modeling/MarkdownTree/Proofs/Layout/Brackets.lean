import Mathlib.Data.List.Forall2
import MarkdownTree.Layout.Builder

/-!
# Well-bracketed calls

Calls on a sink are well-bracketed if every start has its end, in order, and items stand directly
in lists. Such calls have a parse tree, which is a list of layout blocks.

* `Parses`, `ParsesItems` — the grammar of well-bracketed calls with the blocks they stand for.
* `Parses.foldl_emit` — a layout builder that receives such calls adds these blocks to whatever
  container is open and leaves no warning.
-/

namespace MarkdownTree

/-- The block that a call adds by itself, if it neither opens nor closes a container. -/
def Call.block? (doc : Document) : Call → Option LayoutBlock
  | .rule => some .rule
  | .code language literal => some (.code language literal)
  | .empty => some .empty
  | .text source fadeOut => some (.text (doc.spans source) fadeOut)
  | .run literal => some (.run literal)
  | .html literal => some (.html literal)
  | .table root => some (.table (Table.ofNode doc root))
  | .quoteStart | .quoteEnd | .headingStart _ | .headingEnd | .listStart _ _ | .itemStart _
  | .itemEnd | .listEnd => none

mutual

/-- Calls that are well-bracketed, and the blocks they stand for. -/
inductive Parses (doc : Document) : List Call → List LayoutBlock → Prop
  | nil : Parses doc [] []
  | leaf {call : Call} {block : LayoutBlock} {calls : List Call} {blocks : List LayoutBlock} :
      call.block? doc = some block → Parses doc calls blocks →
      Parses doc (call :: calls) (block :: blocks)
  | quote {inner calls : List Call} {content blocks : List LayoutBlock} :
      Parses doc inner content → Parses doc calls blocks →
      Parses doc (.quoteStart :: (inner ++ .quoteEnd :: calls)) (.quote content :: blocks)
  | heading {level : Nat} {inner calls : List Call} {content blocks : List LayoutBlock} :
      Parses doc inner content → Parses doc calls blocks →
      Parses doc (.headingStart level :: (inner ++ .headingEnd :: calls))
        (.heading level content :: blocks)
  | list {kind : ListKind} {start : Int} {inner calls : List Call}
      {items : List (List LayoutBlock)} {blocks : List LayoutBlock} :
      ParsesItems doc inner items → Parses doc calls blocks →
      Parses doc (.listStart kind start :: (inner ++ .listEnd :: calls))
        (.list kind start items :: blocks)

/-- Calls that are well-bracketed between the start and the end of a list, and the items they
stand for. -/
inductive ParsesItems (doc : Document) : List Call → List (List LayoutBlock) → Prop
  | nil : ParsesItems doc [] []
  | item {index : Nat} {inner calls : List Call} {content : List LayoutBlock}
      {items : List (List LayoutBlock)} :
      Parses doc inner content → ParsesItems doc calls items →
      ParsesItems doc (.itemStart index :: (inner ++ .itemEnd :: calls)) (content :: items)

end

namespace Parses

variable {doc : Document}

theorem append : ∀ {calls calls' : List Call} {blocks blocks' : List LayoutBlock},
    Parses doc calls blocks → Parses doc calls' blocks' →
      Parses doc (calls ++ calls') (blocks ++ blocks')
  | _, _, _, _, .nil, h' => h'
  | _, _, _, _, .leaf hb h, h' => .leaf hb (h.append h')
  | _, _, _, _, .quote hi h, h' => by
    rw [List.cons_append, List.append_assoc, List.cons_append, List.cons_append]
    exact .quote hi (h.append h')
  | _, _, _, _, .heading hi h, h' => by
    rw [List.cons_append, List.append_assoc, List.cons_append, List.cons_append]
    exact .heading hi (h.append h')
  | _, _, _, _, .list hi h, h' => by
    rw [List.cons_append, List.append_assoc, List.cons_append, List.cons_append]
    exact .list hi (h.append h')

/-- One call that adds a block by itself. -/
theorem single {call : Call} {block : LayoutBlock} (h : call.block? doc = some block) :
    Parses doc [call] [block] :=
  .leaf h .nil

/-- The calls of several nodes in order. -/
theorem flatMap {α β : Type} {R : α → β → Prop} {calls : α → List Call}
    {blocks : β → List LayoutBlock} (hparses : ∀ a b, R a b → Parses doc (calls a) (blocks b))
    {l : List α} {l' : List β} (h : List.Forall₂ R l l') :
    Parses doc (l.flatMap calls) (l'.flatMap blocks) := by
  induction h with
  | nil => exact .nil
  | cons hab _ ih =>
    rw [List.flatMap_cons, List.flatMap_cons]
    exact (hparses _ _ hab).append ih

end Parses

/-! ## Blocks added to a builder -/

namespace OpenContainer

/-- Appends blocks to an open container. In a list each becomes an item. -/
def append : OpenContainer → List LayoutBlock → OpenContainer
  | .quote content, blocks => .quote (content ++ blocks)
  | .heading level content, blocks => .heading level (content ++ blocks)
  | .list kind start items, blocks => .list kind start (items ++ blocks.map ([·]))
  | .item content, blocks => .item (content ++ blocks)

@[simp] theorem append_nil (c : OpenContainer) : c.append [] = c := by
  cases c <;> simp [append]

@[simp] theorem append_append (c : OpenContainer) (bs cs : List LayoutBlock) :
    (c.append bs).append cs = c.append (bs ++ cs) := by
  cases c <;> simp [append]

@[simp] theorem kind_append (c : OpenContainer) (bs : List LayoutBlock) :
    (c.append bs).kind = c.kind := by
  cases c <;> rfl

end OpenContainer

namespace LayoutBuilder

/-- Appends blocks to the innermost container or, if none is open, to the layout. -/
def add (b : LayoutBuilder) (blocks : List LayoutBlock) : LayoutBuilder :=
  match b.stack with
  | [] => { b with blocks := b.blocks ++ blocks }
  | c :: stack => { b with stack := c.append blocks :: stack }

/-- Whether blocks may be added as they are. Between the items of a list they may not. -/
def TakesBlocks (b : LayoutBuilder) : Prop :=
  ∀ c ∈ b.stack.head?, c.kind ≠ .list

@[simp] theorem add_nil (b : LayoutBuilder) : b.add [] = b := by
  obtain ⟨blocks, stack, warnings⟩ := b
  cases stack <;> simp [add]

@[simp] theorem add_add (b : LayoutBuilder) (bs cs : List LayoutBlock) :
    (b.add bs).add cs = b.add (bs ++ cs) := by
  obtain ⟨blocks, stack, warnings⟩ := b
  cases stack <;> simp [add]

theorem TakesBlocks.add {b : LayoutBuilder} (h : b.TakesBlocks) (bs : List LayoutBlock) :
    (b.add bs).TakesBlocks := by
  obtain ⟨blocks, stack, warnings⟩ := b
  cases stack with
  | nil => exact h
  | cons c stack => simpa [LayoutBuilder.add, TakesBlocks] using h

theorem push_eq_add {b : LayoutBuilder} (h : b.TakesBlocks) (block : LayoutBlock) :
    b.push block = b.add [block] := by
  obtain ⟨blocks, stack, warnings⟩ := b
  match stack, h with
  | [], _ => rfl
  | .quote _ :: _, _ => rfl
  | .heading _ _ :: _, _ => rfl
  | .list _ _ _ :: _, h => exact absurd rfl (h _ rfl)
  | .item _ :: _, _ => rfl

theorem emit_block {doc : Document} {call : Call} {block : LayoutBlock}
    (h : call.block? doc = some block) (b : LayoutBuilder) : emit doc b call = b.push block := by
  cases call with
  | quoteStart => cases h
  | quoteEnd => cases h
  | headingStart level => cases h
  | headingEnd => cases h
  | listStart kind start => cases h
  | itemStart index => cases h
  | itemEnd => cases h
  | listEnd => cases h
  | _ => cases h; rfl

end LayoutBuilder

-- By recursion on the parse. Blocks inside a container are added to it while it is on top of the
-- stack; its end then adds it to the container that was on top before.
mutual

/-- **A builder parses well-bracketed calls silently.** -/
theorem Parses.foldl_emit {doc : Document} :
    ∀ {calls : List Call} {blocks : List LayoutBlock}, Parses doc calls blocks →
      ∀ {b : LayoutBuilder}, b.TakesBlocks →
      calls.foldl (LayoutBuilder.emit doc) b = b.add blocks
  | _, _, .nil, b, _ => by simp
  | _, _, .leaf hb h, b, ht => by
    rw [List.foldl_cons, LayoutBuilder.emit_block hb, LayoutBuilder.push_eq_add ht,
      h.foldl_emit (ht.add _), LayoutBuilder.add_add, List.singleton_append]
  | _, _, .quote hi h, b, ht => by
    rw [List.foldl_cons, List.foldl_append, LayoutBuilder.emit, LayoutBuilder.enter,
      hi.foldl_emit (by simp [LayoutBuilder.TakesBlocks, OpenContainer.kind]), List.foldl_cons]
    have hleave : ∀ content, LayoutBuilder.emit doc
        (LayoutBuilder.add { b with stack := .quote [] :: b.stack } content) .quoteEnd =
          b.push (.quote content) := fun _ => rfl
    rw [hleave, LayoutBuilder.push_eq_add ht, h.foldl_emit (ht.add _), LayoutBuilder.add_add,
      List.singleton_append]
  | _, _, @Parses.heading _ level _ _ _ _ hi h, b, ht => by
    rw [List.foldl_cons, List.foldl_append, LayoutBuilder.emit, LayoutBuilder.enter,
      hi.foldl_emit (by simp [LayoutBuilder.TakesBlocks, OpenContainer.kind]), List.foldl_cons]
    have hleave : ∀ content, LayoutBuilder.emit doc
        (LayoutBuilder.add { b with stack := .heading level [] :: b.stack } content)
          .headingEnd = b.push (.heading level content) := fun _ => rfl
    rw [hleave, LayoutBuilder.push_eq_add ht, h.foldl_emit (ht.add _), LayoutBuilder.add_add,
      List.singleton_append]
  | _, _, @Parses.list _ kind start _ _ _ _ hi h, b, ht => by
    rw [List.foldl_cons, List.foldl_append, LayoutBuilder.emit, LayoutBuilder.enter,
      hi.foldl_emit_items rfl, List.foldl_cons]
    have hleave : ∀ items, LayoutBuilder.emit doc
        { b with stack := .list kind start items :: b.stack } .listEnd =
          b.push (.list kind start items) := fun _ => rfl
    rw [List.nil_append, hleave, LayoutBuilder.push_eq_add ht, h.foldl_emit (ht.add _),
      LayoutBuilder.add_add, List.singleton_append]

theorem ParsesItems.foldl_emit_items {doc : Document} :
    ∀ {calls : List Call} {items : List (List LayoutBlock)}, ParsesItems doc calls items →
      ∀ {b : LayoutBuilder} {kind : ListKind} {start : Int} {before : List (List LayoutBlock)}
        {stack : List OpenContainer}, b.stack = .list kind start before :: stack →
      calls.foldl (LayoutBuilder.emit doc) b =
        { b with stack := .list kind start (before ++ items) :: stack }
  | _, _, .nil, b, kind, start, before, stack, hb => by
    obtain ⟨blocks, bstack, warnings⟩ := b
    cases hb
    simp
  | _, _, .item hi h, b, kind, start, before, stack, hb => by
    obtain ⟨blocks, bstack, warnings⟩ := b
    cases hb
    rw [List.foldl_cons, List.foldl_append, LayoutBuilder.emit, LayoutBuilder.enter,
      hi.foldl_emit (by simp [LayoutBuilder.TakesBlocks, OpenContainer.kind]), List.foldl_cons]
    have hleave : ∀ content, LayoutBuilder.emit doc
        (LayoutBuilder.add
          ⟨blocks, .item [] :: .list kind start before :: stack, warnings⟩ content) .itemEnd =
          ⟨blocks, .list kind start (before ++ [content]) :: stack, warnings⟩ := fun _ => rfl
    rw [hleave, h.foldl_emit_items rfl]
    simp

end

/-- A fresh builder finishes with the parse tree of the calls and nothing to repair. -/
theorem Parses.ofCalls {doc : Document} {calls : List Call} {blocks : List LayoutBlock}
    (h : Parses doc calls blocks) : LayoutBuilder.ofCalls doc calls = { blocks } := by
  have hfresh : LayoutBuilder.TakesBlocks {} := by simp [LayoutBuilder.TakesBlocks]
  rw [LayoutBuilder.ofCalls, h.foldl_emit hfresh]
  rfl

end MarkdownTree
