import MarkdownTree.Proofs.Layout.Steps

/-!
# What a layout builder keeps

A layout builder repairs calls that do not balance, but it drops no block, makes none up and moves
none. To see this, a half-built layout is read in pre-order: its finished blocks, then the open
containers from the outermost on, each before what it holds so far. A call that adds a block or
opens a container adds one entry at the end; the other calls, and all repairs, add none.

* `LayoutBlock.preorder`, `LayoutBuilder.preorder` — the entries of a block and of a builder.
* `preorder_emit`, `preorder_finish` — what a call and what finishing does to them.
* `preorder_layout_ofCalls` — the entries of a finished layout are those of the calls.
-/

namespace MarkdownTree

/-! ## Entries -/

namespace LayoutBlock

mutual

/-- A block and the blocks inside of it in pre-order, containers without their content. -/
def preorder : LayoutBlock → List LayoutBlock
  | .quote content => .quote [] :: preorderAll content
  | .heading level content => .heading level [] :: preorderAll content
  | .list kind startIndex items => .list kind startIndex [] :: preorderItems items
  | b => [b]

/-- The entries of some blocks, in order. -/
def preorderAll : List LayoutBlock → List LayoutBlock
  | [] => []
  | b :: bs => b.preorder ++ preorderAll bs

/-- The entries of the items of a list, item by item. -/
def preorderItems : List (List LayoutBlock) → List LayoutBlock
  | [] => []
  | content :: items => preorderAll content ++ preorderItems items

end

@[simp] theorem preorderAll_append : ∀ bs cs : List LayoutBlock,
    preorderAll (bs ++ cs) = preorderAll bs ++ preorderAll cs
  | [], cs => by simp [preorderAll]
  | b :: bs, cs => by
    rw [List.cons_append, preorderAll, preorderAll, preorderAll_append bs cs, List.append_assoc]

@[simp] theorem preorderItems_append : ∀ items items' : List (List LayoutBlock),
    preorderItems (items ++ items') = preorderItems items ++ preorderItems items'
  | [], items' => by simp [preorderItems]
  | content :: items, items' => by
    rw [List.cons_append, preorderItems, preorderItems, preorderItems_append items items',
      List.append_assoc]

@[simp] theorem preorderAll_singleton (b : LayoutBlock) : preorderAll [b] = b.preorder := by
  simp [preorderAll]

/-- Blocks that are items of their own. -/
@[simp] theorem preorderItems_map_singleton : ∀ bs : List LayoutBlock,
    preorderItems (bs.map ([·])) = preorderAll bs
  | [] => rfl
  | b :: bs => by
    rw [List.map_cons, preorderItems, preorderItems_map_singleton bs, preorderAll_singleton,
      preorderAll]

end LayoutBlock

/-- The entry that a call adds to a layout. Ends and the starts of items add none. -/
def Call.entry? (doc : Document) : Call → Option LayoutBlock
  | .quoteStart => some (.quote [])
  | .headingStart level => some (.heading level [])
  | .listStart kind startIndex => some (.list kind startIndex [])
  | call => call.block? doc

/-- The entries of an open container: its own, unless it is an item, and those of its content. -/
def OpenContainer.preorder : OpenContainer → List LayoutBlock
  | .quote content => .quote [] :: LayoutBlock.preorderAll content
  | .heading level content => .heading level [] :: LayoutBlock.preorderAll content
  | .list kind startIndex items => .list kind startIndex [] :: LayoutBlock.preorderItems items
  | .item content => LayoutBlock.preorderAll content

theorem OpenContainer.preorder_append (c : OpenContainer) (blocks : List LayoutBlock) :
    (c.append blocks).preorder = c.preorder ++ LayoutBlock.preorderAll blocks := by
  cases c with
  | quote content => simp [append, preorder]
  | heading level content => simp [append, preorder]
  | list kind startIndex items => simp [append, preorder]
  | item content => simp [append, preorder]

/-- The entries of a layout under construction: the finished blocks, then the open containers from
the outermost on. -/
def LayoutBuilder.preorder (b : LayoutBuilder) : List LayoutBlock :=
  LayoutBlock.preorderAll b.blocks ++ b.stack.reverse.flatMap OpenContainer.preorder

/-- A block that a call adds by itself has no content. -/
theorem Call.preorder_of_block? {doc : Document} {call : Call} {block : LayoutBlock}
    (h : call.block? doc = some block) : block.preorder = [block] := by
  cases call with
  | quoteStart => cases h
  | quoteEnd => cases h
  | headingStart level => cases h
  | headingEnd => cases h
  | listStart kind startIndex => cases h
  | itemStart index => cases h
  | itemEnd => cases h
  | listEnd => cases h
  | _ => cases h; rfl

/-- A container that a call opens adds the entry of the call. -/
theorem Call.preorder_of_opened? {doc : Document} {call : Call} {c : OpenContainer}
    (h : call.opened? = some c) : c.preorder = (call.entry? doc).toList := by
  cases call with
  | quoteStart => cases h; rfl
  | headingStart level => cases h; rfl
  | listStart kind startIndex => cases h; rfl
  | itemStart index => cases h; rfl
  | _ => cases h

theorem Call.entry?_of_block? {doc : Document} {call : Call} {block : LayoutBlock}
    (h : call.block? doc = some block) : call.entry? doc = some block := by
  cases call with
  | quoteStart => cases h
  | headingStart level => cases h
  | listStart kind startIndex => cases h
  | _ => exact h

theorem Call.entry?_of_closed? {doc : Document} {call : Call} {kind : ContainerKind}
    (h : call.closed? = some kind) : call.entry? doc = none := by
  cases call with
  | quoteEnd => rfl
  | headingEnd => rfl
  | listEnd => rfl
  | itemEnd => rfl
  | _ => cases h

/-- A container that is closed as a block keeps its entries. -/
theorem OpenContainer.preorder_of_block? {c : OpenContainer} {block : LayoutBlock}
    (h : c.block? = some block) : block.preorder = c.preorder := by
  cases c with
  | quote content => cases h; rfl
  | heading level content => cases h; rfl
  | list kind startIndex items => cases h; rfl
  | item content => cases h

/-! ## What the steps of a builder do to the entries -/

namespace LayoutBuilder

@[simp] theorem preorder_warn (b : LayoutBuilder) (w : LayoutWarning) :
    (b.warn w).preorder = b.preorder := rfl

theorem preorder_stack_cons (b : LayoutBuilder) (c : OpenContainer) (stack : List OpenContainer) :
    ({ b with stack := c :: stack } : LayoutBuilder).preorder =
      ({ b with stack } : LayoutBuilder).preorder ++ c.preorder := by
  simp [preorder]

theorem preorder_enter (b : LayoutBuilder) (c : OpenContainer) :
    (b.enter c).preorder = b.preorder ++ c.preorder :=
  b.preorder_stack_cons c b.stack

/-- The builder with its innermost container taken off the stack. -/
theorem preorder_of_stack_cons {b : LayoutBuilder} {c : OpenContainer} {stack : List OpenContainer}
    (h : b.stack = c :: stack) :
    b.preorder = ({ b with stack } : LayoutBuilder).preorder ++ c.preorder := by
  rw [← preorder_stack_cons, ← h]

/-- Blocks stand behind everything that is there already, also where they become items. -/
theorem preorder_add (b : LayoutBuilder) (blocks : List LayoutBlock) :
    (b.add blocks).preorder = b.preorder ++ LayoutBlock.preorderAll blocks := by
  cases hb : b.stack with
  | nil => simp [add, preorder, hb]
  | cons c stack =>
    have hadd : b.add blocks = { b with stack := c.append blocks :: stack } := by rw [add, hb]
    rw [hadd, preorder_stack_cons, preorder_of_stack_cons hb, OpenContainer.preorder_append,
      List.append_assoc]

theorem preorder_push (b : LayoutBuilder) (block : LayoutBlock) :
    (b.push block).preorder = b.preorder ++ block.preorder := by
  have hadd : (b.add [block]).preorder = b.preorder ++ block.preorder := by
    rw [preorder_add, LayoutBlock.preorderAll_singleton]
  rcases b.push_cases block with ⟨-, h⟩ | ⟨-, h⟩
  · rw [h, hadd]
  · rw [h, preorder_warn, hadd]

/-- A container that is closed keeps its place, also where an item dissolves into its blocks. -/
theorem preorder_shut (b : LayoutBuilder) (c : OpenContainer) :
    (b.shut c).preorder = b.preorder ++ c.preorder := by
  rcases b.shut_cases c with
    ⟨block, hc, h⟩ | ⟨content, kind, startIndex, items, stack, rfl, hb, h⟩ | ⟨content, rfl, -, h⟩
  · rw [h, preorder_push, OpenContainer.preorder_of_block? hc]
  · rw [h, preorder_stack_cons, preorder_of_stack_cons hb]
    simp [OpenContainer.preorder, LayoutBlock.preorderItems]
  · rw [h, preorder_add, preorder_warn]
    rfl

/-- An end adds no entry, whether it fits or not. -/
theorem preorder_leave (b : LayoutBuilder) (expected : ContainerKind) :
    (b.leave expected).preorder = b.preorder := by
  rcases b.leave_cases expected with ⟨c, stack, hb, -, h⟩ | ⟨-, h⟩
  · rw [h, preorder_shut, preorder_of_stack_cons hb]
  · rw [h, preorder_warn]

/-- **A call adds its entry behind all others.** -/
theorem preorder_emit (doc : Document) (b : LayoutBuilder) (call : Call) :
    (emit doc b call).preorder = b.preorder ++ (call.entry? doc).toList := by
  rcases emit_cases doc b call with ⟨block, hcall, h⟩ | ⟨c, hcall, h⟩ | ⟨kind, hcall, h⟩
  · rw [h, preorder_push, Call.preorder_of_block? hcall, Call.entry?_of_block? hcall]
    rfl
  · rw [h, preorder_enter, Call.preorder_of_opened? hcall]
  · rw [h, preorder_leave, Call.entry?_of_closed? hcall, Option.toList_none, List.append_nil]

theorem preorder_foldl_emit (doc : Document) : ∀ (calls : List Call) (b : LayoutBuilder),
    (calls.foldl (emit doc) b).preorder = b.preorder ++ calls.filterMap (Call.entry? doc)
  | [], b => by simp
  | call :: calls, b => by
    rw [List.foldl_cons, preorder_foldl_emit doc calls, preorder_emit, List.append_assoc]
    cases h : call.entry? doc <;> simp [h]

theorem preorder_closeOpen : ∀ (n : Nat) (b : LayoutBuilder),
    (closeOpen n b).preorder = b.preorder
  | 0, _ => rfl
  | _ + 1, ⟨_, [], _⟩ => rfl
  | n + 1, ⟨blocks, c :: stack, warnings⟩ => by
    rw [closeOpen, preorder_closeOpen n, preorder_shut, preorder_warn]
    exact (preorder_stack_cons ⟨blocks, stack, warnings⟩ c stack).symm

/-- Finishing closes everything and moves nothing. -/
theorem preorder_finish (b : LayoutBuilder) :
    LayoutBlock.preorderAll b.finish.layout.blocks = b.preorder := by
  have hpreorder : b.finish.preorder = b.preorder := preorder_closeOpen b.height b
  rw [← hpreorder, preorder, stack_finish]
  simp [layout]

end LayoutBuilder

/-- **No output is lost, duplicated or moved, however unbalanced the calls.** Read in pre-order, a
finished layout is the calls without ends and starts of items. -/
theorem preorder_layout_ofCalls (doc : Document) (calls : List Call) :
    LayoutBlock.preorderAll (LayoutBuilder.ofCalls doc calls).layout.blocks =
      calls.filterMap (Call.entry? doc) := by
  rw [LayoutBuilder.ofCalls, LayoutBuilder.preorder_finish, LayoutBuilder.preorder_foldl_emit]
  rfl

end MarkdownTree
