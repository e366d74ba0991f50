import MarkdownTree.Proofs.Layout.Brackets

/-!
# The steps of a layout builder

Whatever a layout builder receives, it does one of a few things: it adds blocks to the innermost
container, opens or closes a container, turns a block into an item, dissolves an item into its
blocks, or ignores the call. This module says once which of them, in terms of `add` and `warn`, so
that invariants of the builder follow without looking at its definition again.

* `emit_cases`, `push_cases`, `shut_cases`, `leave_cases` — what each step can do.
* `height_shut`, `stack_finish` — a closed container goes into one that is open, so finishing closes
  all of them.
* `warnings_prefix_emit`, `warnings_prefix_closeOpen` — warnings are never taken back.
-/

namespace MarkdownTree

/-- The container that a call opens. -/
def Call.opened? : Call → Option OpenContainer
  | .quoteStart => some (.quote [])
  | .headingStart level => some (.heading level [])
  | .listStart kind startIndex => some (.list kind startIndex [])
  | .itemStart _ => some (.item [])
  | _ => none

/-- The kind of container that a call closes. -/
def Call.closed? : Call → Option ContainerKind
  | .quoteEnd => some .quote
  | .headingEnd => some .heading
  | .listEnd => some .list
  | .itemEnd => some .item
  | _ => none

/-- The block that an open container becomes. An item becomes none by itself. -/
def OpenContainer.block? : OpenContainer → Option LayoutBlock
  | .quote content => some (.quote content)
  | .heading level content => some (.heading level content)
  | .list kind startIndex items => some (.list kind startIndex items)
  | .item _ => none

namespace LayoutBuilder

variable {doc : Document}

/-! ## What each step can do -/

theorem takesBlocks_of_stack_nil {b : LayoutBuilder} (h : b.stack = []) : b.TakesBlocks := by
  simp [TakesBlocks, h]

theorem takesBlocks_of_stack_cons {b : LayoutBuilder} {c : OpenContainer}
    {stack : List OpenContainer} (h : b.stack = c :: stack) :
    b.TakesBlocks ↔ c.kind ≠ .list := by
  simp [TakesBlocks, h]

/-- A call adds a block, opens a container or closes one. -/
theorem emit_cases (doc : Document) (b : LayoutBuilder) (call : Call) :
    (∃ block, call.block? doc = some block ∧ emit doc b call = b.push block) ∨
      (∃ c, call.opened? = some c ∧ emit doc b call = b.enter c) ∨
      ∃ kind, call.closed? = some kind ∧ emit doc b call = b.leave kind := by
  cases call with
  | quoteStart => exact .inr (.inl ⟨_, rfl, rfl⟩)
  | headingStart level => exact .inr (.inl ⟨_, rfl, rfl⟩)
  | listStart kind startIndex => exact .inr (.inl ⟨_, rfl, rfl⟩)
  | itemStart index => exact .inr (.inl ⟨_, rfl, rfl⟩)
  | quoteEnd => exact .inr (.inr ⟨_, rfl, rfl⟩)
  | headingEnd => exact .inr (.inr ⟨_, rfl, rfl⟩)
  | listEnd => exact .inr (.inr ⟨_, rfl, rfl⟩)
  | itemEnd => exact .inr (.inr ⟨_, rfl, rfl⟩)
  | _ => exact .inl ⟨_, rfl, rfl⟩

/-- Only between the items of a list blocks may not be added as they are. -/
theorem exists_list_of_not_takesBlocks {b : LayoutBuilder} (h : ¬ b.TakesBlocks) :
    ∃ kind startIndex items stack, b.stack = .list kind startIndex items :: stack := by
  obtain ⟨blocks, stack, warnings⟩ := b
  cases stack with
  | nil => exact absurd (takesBlocks_of_stack_nil rfl) h
  | cons c stack =>
    rw [takesBlocks_of_stack_cons rfl, not_not] at h
    cases c with
    | list kind startIndex items => exact ⟨kind, startIndex, items, stack, rfl⟩
    | quote content => cases h
    | heading level content => cases h
    | item content => cases h

/-- A block is added to the innermost container. In a list it becomes an item, with a warning. -/
theorem push_cases (b : LayoutBuilder) (block : LayoutBlock) :
    (b.TakesBlocks ∧ b.push block = b.add [block]) ∨
      (¬ b.TakesBlocks ∧ b.push block = (b.add [block]).warn .betweenItems) := by
  by_cases h : b.TakesBlocks
  · exact .inl ⟨h, push_eq_add h block⟩
  · obtain ⟨kind, startIndex, items, stack, hb⟩ := exists_list_of_not_takesBlocks h
    refine .inr ⟨h, ?_⟩
    rw [push, hb, add, hb]
    rfl

theorem foldl_push_eq_add : ∀ {b : LayoutBuilder}, b.TakesBlocks → ∀ blocks : List LayoutBlock,
    blocks.foldl push b = b.add blocks
  | b, _, [] => b.add_nil.symm
  | b, h, block :: blocks => by
    rw [List.foldl_cons, push_eq_add h, foldl_push_eq_add (h.add _), add_add,
      List.singleton_append]

/-- A container that is closed is one more block, or one more item of a list. Outside of a list an
item leaves its blocks, with a warning. -/
theorem shut_cases (b : LayoutBuilder) (c : OpenContainer) :
    (∃ block, c.block? = some block ∧ b.shut c = b.push block) ∨
      (∃ content kind startIndex items stack, c = .item content ∧
        b.stack = .list kind startIndex items :: stack ∧
        b.shut c = { b with stack := .list kind startIndex (items ++ [content]) :: stack }) ∨
      ∃ content, c = .item content ∧ b.TakesBlocks ∧
        b.shut c = (b.warn .itemOutsideList).add content := by
  cases c with
  | quote content => exact .inl ⟨_, rfl, rfl⟩
  | heading level content => exact .inl ⟨_, rfl, rfl⟩
  | list kind startIndex items => exact .inl ⟨_, rfl, rfl⟩
  | item content =>
    refine .inr ?_
    by_cases h : b.TakesBlocks
    · -- the warning does not change what is open
      have hwarn : (b.warn .itemOutsideList).TakesBlocks := h
      refine .inr ⟨content, rfl, h, ?_⟩
      rw [← foldl_push_eq_add hwarn]
      obtain ⟨blocks, stack, warnings⟩ := b
      match stack, h with
      | [], _ => rfl
      | .quote _ :: _, _ => rfl
      | .heading _ _ :: _, _ => rfl
      | .item _ :: _, _ => rfl
      | .list _ _ _ :: _, h => exact absurd rfl (h _ rfl)
    · obtain ⟨kind, startIndex, items, stack, hb⟩ := exists_list_of_not_takesBlocks h
      refine .inl ⟨content, kind, startIndex, items, stack, rfl, hb, ?_⟩
      rw [shut, hb]

/-- An end closes the innermost container if it fits, and is ignored with a warning if not. -/
theorem leave_cases (b : LayoutBuilder) (expected : ContainerKind) :
    (∃ c stack, b.stack = c :: stack ∧ c.kind = expected ∧
        b.leave expected = ({ b with stack } : LayoutBuilder).shut c) ∨
      (b.stack.head?.map OpenContainer.kind ≠ some expected ∧ b.leave expected =
        b.warn (.unbalancedEnd expected (b.stack.head?.map OpenContainer.kind))) := by
  obtain ⟨blocks, stack, warnings⟩ := b
  cases stack with
  | nil => exact .inr ⟨by simp, rfl⟩
  | cons c stack =>
    by_cases hc : c.kind = expected
    · exact .inl ⟨c, stack, rfl, hc, if_pos hc⟩
    · exact .inr ⟨by simpa using hc, if_neg hc⟩

/-! ## The height of the stack -/

@[simp] theorem height_warn (b : LayoutBuilder) (w : LayoutWarning) :
    (b.warn w).height = b.height := rfl

@[simp] theorem height_add (b : LayoutBuilder) (blocks : List LayoutBlock) :
    (b.add blocks).height = b.height := by
  obtain ⟨_, stack, _⟩ := b
  cases stack <;> rfl

@[simp] theorem height_push (b : LayoutBuilder) (block : LayoutBlock) :
    (b.push block).height = b.height := by
  rcases b.push_cases block with ⟨-, h⟩ | ⟨-, h⟩
  · rw [h, height_add]
  · rw [h, height_warn, height_add]

/-- What is closed goes into a container that is open already. -/
@[simp] theorem height_shut (b : LayoutBuilder) (c : OpenContainer) :
    (b.shut c).height = b.height := by
  rcases b.shut_cases c with
    ⟨block, -, h⟩ | ⟨content, kind, startIndex, items, stack, -, hb, h⟩ | ⟨content, -, -, h⟩
  · rw [h, height_push]
  · rw [h, height, height, hb]
    rfl
  · rw [h, height_add, height_warn]

theorem stack_closeOpen : ∀ (n : Nat) (b : LayoutBuilder), b.height = n →
    (closeOpen n b).stack = []
  | 0, _, h => List.length_eq_zero_iff.mp h
  | n + 1, ⟨_, [], _⟩, h => by cases h
  | n + 1, ⟨blocks, c :: stack, warnings⟩, h => by
    rw [closeOpen]
    refine stack_closeOpen n _ ?_
    rw [height_shut]
    exact Nat.succ.inj h

/-- Nothing is open in the end. -/
theorem stack_finish (b : LayoutBuilder) : b.finish.stack = [] :=
  stack_closeOpen b.height b rfl

/-! ## Warnings -/

@[simp] theorem warnings_add (b : LayoutBuilder) (blocks : List LayoutBlock) :
    (b.add blocks).warnings = b.warnings := by
  obtain ⟨_, stack, _⟩ := b
  cases stack <;> rfl

theorem warnings_prefix_warn (b : LayoutBuilder) (w : LayoutWarning) :
    b.warnings <+: (b.warn w).warnings :=
  List.prefix_append _ _

theorem warnings_prefix_push (b : LayoutBuilder) (block : LayoutBlock) :
    b.warnings <+: (b.push block).warnings := by
  rcases b.push_cases block with ⟨-, h⟩ | ⟨-, h⟩
  · have hw : (b.push block).warnings = b.warnings := by rw [h, warnings_add]
    exact hw ▸ List.prefix_rfl
  · rw [h, ← warnings_add b [block]]
    exact warnings_prefix_warn _ _

theorem warnings_prefix_shut (b : LayoutBuilder) (c : OpenContainer) :
    b.warnings <+: (b.shut c).warnings := by
  rcases b.shut_cases c with
    ⟨block, -, h⟩ | ⟨content, kind, startIndex, items, stack, -, -, h⟩ | ⟨content, -, -, h⟩
  · rw [h]
    exact b.warnings_prefix_push block
  · have hw : (b.shut c).warnings = b.warnings := by rw [h]
    exact hw ▸ List.prefix_rfl
  · rw [h, warnings_add]
    exact b.warnings_prefix_warn _

theorem warnings_prefix_leave (b : LayoutBuilder) (expected : ContainerKind) :
    b.warnings <+: (b.leave expected).warnings := by
  rcases b.leave_cases expected with ⟨c, stack, -, -, h⟩ | ⟨-, h⟩
  · rw [h]
    exact warnings_prefix_shut { b with stack } c
  · rw [h]
    exact b.warnings_prefix_warn _

theorem warnings_prefix_emit (b : LayoutBuilder) (call : Call) :
    b.warnings <+: (emit doc b call).warnings := by
  rcases emit_cases doc b call with ⟨block, -, h⟩ | ⟨c, -, h⟩ | ⟨kind, -, h⟩
  · rw [h]
    exact b.warnings_prefix_push block
  · rw [h]
    exact List.prefix_rfl
  · rw [h]
    exact b.warnings_prefix_leave kind

/-- Warnings are never taken back. -/
theorem warnings_prefix_foldl_emit : ∀ (calls : List Call) (b : LayoutBuilder),
    b.warnings <+: (calls.foldl (emit doc) b).warnings
  | [], _ => List.prefix_rfl
  | call :: calls, b =>
    (b.warnings_prefix_emit call).trans (warnings_prefix_foldl_emit calls (emit doc b call))

theorem warnings_prefix_closeOpen : ∀ (n : Nat) (b : LayoutBuilder),
    b.warnings <+: (closeOpen n b).warnings
  | 0, _ => List.prefix_rfl
  | _ + 1, ⟨_, [], _⟩ => List.prefix_rfl
  | n + 1, ⟨blocks, c :: stack, warnings⟩ => by
    rw [closeOpen]
    refine List.IsPrefix.trans ?_ (warnings_prefix_closeOpen n _)
    refine List.IsPrefix.trans ?_ (warnings_prefix_shut _ c)
    exact warnings_prefix_warn ⟨blocks, stack, warnings⟩ _

end LayoutBuilder

end MarkdownTree
