import MarkdownTree.Document.Builder
import MarkdownTree.Proofs.Layout.Grammar

/-!
# When a layout builder has nothing to repair

A layout builder leaves no warning if and only if its calls are well-bracketed, and then the layout
is their parse tree. One direction is `Parses.ofCalls`. For the other, as long as no warning is left
the open containers and the finished blocks tell exactly which calls there were: every complete part
of the calls has been parsed, and the starts of the open containers are still waiting for their
ends.

* `LayoutBuilder.Reads` — the calls that a half-built layout stands for.
* `Reads.emit` — a call without a warning is one more call that the builder stands for.
* `LayoutBlock.replay` — calls that make a given layout, its texts and tables taken from a document.
* `silent_iff_bracketed` — the builder is silent on well-bracketed calls only, and parses them.
-/

namespace MarkdownTree

/-! ## The calls of a half-built layout -/

/-- The calls for an open container so far: its start, then what it holds. -/
def OpenContainer.Reads (doc : Document) : OpenContainer → List Call → Prop
  | .quote content, calls => ∃ inner, calls = .quoteStart :: inner ∧ Parses doc inner content
  | .heading level content, calls =>
    ∃ inner, calls = .headingStart level :: inner ∧ Parses doc inner content
  | .list kind startIndex items, calls =>
    ∃ inner, calls = .listStart kind startIndex :: inner ∧ ParsesItems doc inner items
  | .item content, calls =>
    ∃ index inner, calls = .itemStart index :: inner ∧ Parses doc inner content

/-- The calls for some blocks and for the containers that are open behind them. -/
inductive ReadsStack (doc : Document) (blocks : List LayoutBlock) :
    List OpenContainer → List Call → Prop
  | nil {calls : List Call} : Parses doc calls blocks → ReadsStack doc blocks [] calls
  | cons {c : OpenContainer} {stack : List OpenContainer} {calls own : List Call} :
      ReadsStack doc blocks stack calls → c.Reads doc own →
      ReadsStack doc blocks (c :: stack) (calls ++ own)

/-- The calls that a half-built layout stands for. -/
def LayoutBuilder.Reads (doc : Document) (b : LayoutBuilder) (calls : List Call) : Prop :=
  ReadsStack doc b.blocks b.stack calls

namespace OpenContainer.Reads

variable {doc : Document} {c : OpenContainer} {own calls : List Call}

theorem of_opened? {call : Call} (h : call.opened? = some c) : c.Reads doc [call] := by
  cases call with
  | quoteStart => cases h; exact ⟨[], rfl, .nil⟩
  | headingStart level => cases h; exact ⟨[], rfl, .nil⟩
  | listStart kind startIndex => cases h; exact ⟨[], rfl, .nil⟩
  | itemStart index => cases h; exact ⟨index, [], rfl, .nil⟩
  | _ => cases h

theorem append (h : c.Reads doc own) (hc : c.kind ≠ .list) {blocks : List LayoutBlock}
    (hcalls : Parses doc calls blocks) : (c.append blocks).Reads doc (own ++ calls) := by
  cases c with
  | quote content =>
    obtain ⟨inner, rfl, hi⟩ := h
    exact ⟨inner ++ calls, rfl, hi.append hcalls⟩
  | heading level content =>
    obtain ⟨inner, rfl, hi⟩ := h
    exact ⟨inner ++ calls, rfl, hi.append hcalls⟩
  | list kind startIndex items => exact absurd rfl hc
  | item content =>
    obtain ⟨index, inner, rfl, hi⟩ := h
    exact ⟨index, inner ++ calls, rfl, hi.append hcalls⟩

/-- A container with its end is a block. -/
theorem parses_stop (h : c.Reads doc own) {block : LayoutBlock} (hc : c.block? = some block) :
    Parses doc (own ++ [c.kind.stop]) [block] := by
  cases c with
  | quote content =>
    obtain ⟨inner, rfl, hi⟩ := h
    cases hc
    exact .quote hi .nil
  | heading level content =>
    obtain ⟨inner, rfl, hi⟩ := h
    cases hc
    exact .heading hi .nil
  | list kind startIndex items =>
    obtain ⟨inner, rfl, hi⟩ := h
    cases hc
    exact .list hi .nil
  | item content => cases hc

/-- A list takes one more item when the end of the item comes. -/
theorem append_item {kind : ListKind} {startIndex : Int} {items : List (List LayoutBlock)}
    {content : List LayoutBlock} (h : (OpenContainer.list kind startIndex items).Reads doc own)
    (hitem : (OpenContainer.item content).Reads doc calls) :
    (OpenContainer.list kind startIndex (items ++ [content])).Reads doc
      (own ++ (calls ++ [.itemEnd])) := by
  obtain ⟨inner, rfl, hi⟩ := h
  obtain ⟨index, body, rfl, hb⟩ := hitem
  exact ⟨inner ++ (.itemStart index :: (body ++ [.itemEnd])), rfl, hi.append (.item hb .nil)⟩

end OpenContainer.Reads

namespace LayoutBuilder.Reads

variable {doc : Document} {b : LayoutBuilder} {calls calls' : List Call}

theorem enter (h : b.Reads doc calls) {c : OpenContainer} (hc : c.Reads doc calls') :
    (b.enter c).Reads doc (calls ++ calls') :=
  .cons h hc

theorem add (h : b.Reads doc calls) (ht : b.TakesBlocks) {blocks : List LayoutBlock}
    (hcalls : Parses doc calls' blocks) : (b.add blocks).Reads doc (calls ++ calls') := by
  obtain ⟨bs, stack, warnings⟩ := b
  cases h with
  | nil hbs => exact .nil (hbs.append hcalls)
  | cons hstack hc =>
    rw [List.append_assoc]
    exact .cons hstack (hc.append ((takesBlocks_of_stack_cons rfl).mp ht) hcalls)

/-- A block that is pushed without a warning. -/
theorem push (h : b.Reads doc calls) {block : LayoutBlock} (hcalls : Parses doc calls' [block])
    (hsilent : (b.push block).warnings = b.warnings) :
    (b.push block).Reads doc (calls ++ calls') := by
  rcases b.push_cases block with ⟨ht, hpush⟩ | ⟨-, hpush⟩
  · rw [hpush]
    exact h.add ht hcalls
  · rw [hpush] at hsilent
    simp [warn] at hsilent

/-- A container that is closed without a warning. -/
theorem shut (h : b.Reads doc calls) {c : OpenContainer} (hc : c.Reads doc calls')
    (hsilent : (b.shut c).warnings = b.warnings) :
    (b.shut c).Reads doc (calls ++ (calls' ++ [c.kind.stop])) := by
  rcases b.shut_cases c with
    ⟨block, hb, hshut⟩ | ⟨content, kind, startIndex, items, stack, rfl, hb, hshut⟩ |
      ⟨content, rfl, -, hshut⟩
  · rw [hshut] at hsilent ⊢
    exact h.push (hc.parses_stop hb) hsilent
  · rw [hshut]
    rw [Reads, hb] at h
    cases h with
    | cons hstack hlist =>
      rw [List.append_assoc]
      exact .cons hstack (hlist.append_item hc)
  · rw [hshut] at hsilent
    simp [warn] at hsilent

/-- An end that comes without a warning. -/
theorem leave (h : b.Reads doc calls) {kind : ContainerKind}
    (hsilent : (b.leave kind).warnings = b.warnings) :
    (b.leave kind).Reads doc (calls ++ [kind.stop]) := by
  rcases b.leave_cases kind with ⟨c, stack, hb, rfl, hleave⟩ | ⟨-, hleave⟩
  · rw [hleave] at hsilent ⊢
    rw [Reads, hb] at h
    cases h with
    | @cons _ _ before own hstack hc =>
      have hrest : ({ b with stack } : LayoutBuilder).Reads doc before := hstack
      rw [List.append_assoc]
      exact hrest.shut hc hsilent
  · rw [hleave] at hsilent
    simp [warn] at hsilent

/-- **A call that leaves no warning is one more call that the builder stands for.** -/
theorem emit (h : b.Reads doc calls) {call : Call}
    (hsilent : (LayoutBuilder.emit doc b call).warnings = b.warnings) :
    (LayoutBuilder.emit doc b call).Reads doc (calls ++ [call]) := by
  rcases emit_cases doc b call with ⟨block, hcall, hemit⟩ | ⟨c, hcall, hemit⟩ | ⟨kind, hcall, hemit⟩
  · rw [hemit] at hsilent ⊢
    exact h.push (.single hcall) hsilent
  · rw [hemit]
    exact h.enter (.of_opened? hcall)
  · obtain rfl := Call.eq_stop_of_closed? hcall
    rw [hemit] at hsilent ⊢
    exact h.leave hsilent

/-- A run without warnings. -/
theorem foldl_emit : ∀ {calls' calls : List Call} {b : LayoutBuilder}, b.Reads doc calls →
    (calls'.foldl (LayoutBuilder.emit doc) b).warnings = [] →
    (calls'.foldl (LayoutBuilder.emit doc) b).Reads doc (calls ++ calls')
  | [], calls, b, h, _ => by rwa [List.append_nil]
  | call :: calls', calls, b, h, hsilent => by
    -- no warning in the end, so none after the first call and none before it
    have hcall : (LayoutBuilder.emit doc b call).warnings = [] :=
      List.prefix_nil.mp (hsilent ▸ warnings_prefix_foldl_emit calls' _)
    have hb : b.warnings = [] := List.prefix_nil.mp (hcall ▸ b.warnings_prefix_emit call)
    rw [List.foldl_cons, List.append_cons]
    exact foldl_emit (h.emit (hcall.trans hb.symm)) hsilent

end LayoutBuilder.Reads

/-- A container that is open when the builder is finished leaves a warning. -/
theorem LayoutBuilder.stack_of_silent_finish {b : LayoutBuilder} (h : b.finish.warnings = []) :
    b.stack = [] := by
  obtain ⟨blocks, stack, warnings⟩ := b
  cases stack with
  | nil => rfl
  | cons c stack =>
    -- the warning of the first container that is closed stays
    let warned := ({ blocks, stack, warnings } : LayoutBuilder).warn (.unterminated c.kind)
    have hprefix : warned.warnings <+: [] := by
      rw [← h]
      exact (warnings_prefix_shut warned c).trans (warnings_prefix_closeOpen stack.length _)
    simp [warned, warn] at hprefix

/-- Calls on which a builder is silent have been parsed. -/
theorem parses_of_silent {doc : Document} {calls : List Call}
    (h : (LayoutBuilder.ofCalls doc calls).warnings = []) :
    Parses doc calls (LayoutBuilder.ofCalls doc calls).layout.blocks := by
  rw [LayoutBuilder.ofCalls] at h ⊢
  have hfresh : LayoutBuilder.Reads doc {} [] := .nil .nil
  have hstack := LayoutBuilder.stack_of_silent_finish h
  have hfinish : (calls.foldl (LayoutBuilder.emit doc) {}).finish =
      calls.foldl (LayoutBuilder.emit doc) {} := by
    rw [LayoutBuilder.finish, LayoutBuilder.height, hstack]
    rfl
  rw [hfinish] at h ⊢
  have hreads := hfresh.foldl_emit h
  rw [LayoutBuilder.Reads, hstack] at hreads
  cases hreads with
  | nil hparses => exact hparses

/-! ## Calls that make a given layout -/

/-- A node with the given spans, if there is one. -/
def Document.textSource (doc : Document) (spans : List Span) : NodeId :=
  ((List.range doc.size).find? fun id => doc.spans id = spans).getD 0

/-- A node with the given table, if there is one. -/
def Document.tableSource (doc : Document) (t : Table) : NodeId :=
  ((List.range doc.size).find? fun id => Table.ofNode doc id = t).getD 0

theorem Document.getD_find?_range {α : Type} [DecidableEq α] {f : NodeId → α} {x : α} {n : Nat}
    (h : ∃ id < n, f id = x) : f (((List.range n).find? fun id => f id = x).getD 0) = x := by
  obtain ⟨id, hid, hx⟩ := h
  cases hfind : (List.range n).find? fun id => f id = x with
  | none => simpa [hx] using List.find?_eq_none.mp hfind id (List.mem_range.mpr hid)
  | some found => simpa using List.find?_some hfind

namespace LayoutBlock

mutual

/-- Whether all texts and tables of a block are those of nodes of a document. -/
def FromNodes (doc : Document) : LayoutBlock → Prop
  | .quote content => FromNodesAll doc content
  | .heading _ content => FromNodesAll doc content
  | .list _ _ items => FromNodesItems doc items
  | .text spans _ => ∃ id < doc.size, doc.spans id = spans
  | .table t => ∃ id < doc.size, Table.ofNode doc id = t
  | .rule | .code _ _ | .run _ | .empty | .html _ => True

/-- The same for some blocks. -/
def FromNodesAll (doc : Document) : List LayoutBlock → Prop
  | [] => True
  | b :: bs => b.FromNodes doc ∧ FromNodesAll doc bs

/-- The same for the items of a list. -/
def FromNodesItems (doc : Document) : List (List LayoutBlock) → Prop
  | [] => True
  | content :: items => FromNodesAll doc content ∧ FromNodesItems doc items

end

mutual

/-- The calls that make a block. -/
def replay (doc : Document) : LayoutBlock → List Call
  | .quote content => .quoteStart :: (replayAll doc content ++ [.quoteEnd])
  | .heading level content => .headingStart level :: (replayAll doc content ++ [.headingEnd])
  | .list kind startIndex items =>
    .listStart kind startIndex :: (replayItems doc 0 items ++ [.listEnd])
  | .text spans fadeOut => [.text (doc.textSource spans) fadeOut]
  | .table t => [.table (doc.tableSource t)]
  | .rule => [.rule]
  | .code language literal => [.code language literal]
  | .run literal => [.run literal]
  | .empty => [.empty]
  | .html literal => [.html literal]

/-- The calls that make some blocks. -/
def replayAll (doc : Document) : List LayoutBlock → List Call
  | [] => []
  | b :: bs => b.replay doc ++ replayAll doc bs

/-- The calls that make the items of a list, counted from `index`. -/
def replayItems (doc : Document) : Nat → List (List LayoutBlock) → List Call
  | _, [] => []
  | index, content :: items =>
    .itemStart index :: (replayAll doc content ++ .itemEnd :: replayItems doc (index + 1) items)

end

mutual

theorem parses_replay {doc : Document} : ∀ {b : LayoutBlock}, b.FromNodes doc →
    Parses doc (b.replay doc) [b]
  | .quote _, h => .quote (parses_replayAll h) .nil
  | .heading _ _, h => .heading (parses_replayAll h) .nil
  | .list _ _ _, h => .list (parsesItems_replayItems 0 h) .nil
  | .text spans fadeOut, h => .single (by
      rw [Call.block?, Document.textSource, Document.getD_find?_range h])
  | .table t, h => .single (by
      rw [Call.block?, Document.tableSource, Document.getD_find?_range h])
  | .rule, _ => .single rfl
  | .code _ _, _ => .single rfl
  | .run _, _ => .single rfl
  | .empty, _ => .single rfl
  | .html _, _ => .single rfl

/-- **The calls that make some blocks are well-bracketed and stand for these blocks.** -/
theorem parses_replayAll {doc : Document} : ∀ {bs : List LayoutBlock}, FromNodesAll doc bs →
    Parses doc (replayAll doc bs) bs
  | [], _ => .nil
  | _ :: _, h => (parses_replay h.1).append (parses_replayAll h.2)

theorem parsesItems_replayItems {doc : Document} : ∀ (index : Nat)
    {items : List (List LayoutBlock)}, FromNodesItems doc items →
      ParsesItems doc (replayItems doc index items) items
  | _, [], _ => .nil
  | index, _ :: _, h => .item (parses_replayAll h.1) (parsesItems_replayItems (index + 1) h.2)

end

end LayoutBlock

/-! ## The builder as a parser -/

/-- **A layout builder is silent on exactly the well-bracketed calls, and parses them.** It leaves
no warning if and only if the calls are well-bracketed; then the layout is their parse tree, and
their only one. So a layout whose texts and tables are those of nodes is made again, silently, by
its own calls. -/
theorem silent_iff_bracketed (doc : Document) :
    (∀ calls : List Call,
      ((LayoutBuilder.ofCalls doc calls).warnings = [] ↔ Bracketed Call.bracket calls) ∧
      (Bracketed Call.bracket calls →
        Parses doc calls (LayoutBuilder.ofCalls doc calls).layout.blocks) ∧
      ∀ blocks, Parses doc calls blocks → LayoutBuilder.ofCalls doc calls = { blocks }) ∧
    ∀ blocks : List LayoutBlock, LayoutBlock.FromNodesAll doc blocks →
      LayoutBuilder.ofCalls doc (LayoutBlock.replayAll doc blocks) = { blocks } := by
  have hsilent : ∀ calls : List Call, Bracketed Call.bracket calls →
      (LayoutBuilder.ofCalls doc calls).warnings = [] := by
    intro calls h
    obtain ⟨blocks, hparses⟩ := bracketed_iff_exists_parses.mp h
    rw [hparses.ofCalls]
  constructor
  · intro calls
    refine ⟨⟨?_, hsilent calls⟩, ?_, ?_⟩
    · intro h
      exact (parses_of_silent h).bracketed
    · intro h
      exact parses_of_silent (hsilent calls h)
    · intro blocks h
      exact h.ofCalls
  · intro blocks h
    exact (LayoutBlock.parses_replayAll h).ofCalls

/-- A list with a quote and a table in its only item. The index of the item does not matter, and
the calls that are made from the layout have it from zero. -/
theorem silent_iff_bracketed_quote_in_item :
    let doc := (((Builder.new.openNode (.block (.paragraph true))).leaf
      (.inline (.text "a"))).close.leaf (.block (.tableRoot [.left]))).document
    let calls : List Call := [.listStart .ordered 4, .itemStart 7, .quoteStart, .text 1 true,
      .quoteEnd, .table 3, .itemEnd, .listEnd]
    let blocks : List LayoutBlock := [.list .ordered 4
      [[.quote [.text [⟨"a", {}, none⟩] true], .table ⟨[.left], [], []⟩]]]
    Bracketed Call.bracket calls ∧ Parses doc calls blocks ∧
      (LayoutBuilder.ofCalls doc calls).warnings = [] ∧
      LayoutBuilder.ofCalls doc calls = { blocks } ∧
      LayoutBlock.FromNodesAll doc blocks ∧
      LayoutBuilder.ofCalls doc (LayoutBlock.replayAll doc blocks) = { blocks } := by
  intro doc calls blocks
  have hspans : doc.spans 1 = [⟨"a", {}, none⟩] := by decide +kernel
  have htable : Table.ofNode doc 3 = ⟨[.left], [], []⟩ := by decide +kernel
  have htext : Parses doc [.text 1 true] [.text [⟨"a", {}, none⟩] true] :=
    .single (by rw [Call.block?, hspans])
  have hbody : Parses doc [.table 3] [.table ⟨[.left], [], []⟩] :=
    .single (by rw [Call.block?, htable])
  have hparses : Parses doc calls blocks := .list (.item (.quote htext hbody) .nil) .nil
  have hnodes : LayoutBlock.FromNodesAll doc blocks := by
    have hcontent : ∃ id < doc.size, doc.spans id = [⟨"a", {}, none⟩] := ⟨1, by decide, hspans⟩
    have hrows : ∃ id < doc.size, Table.ofNode doc id = ⟨[.left], [], []⟩ := ⟨3, by decide, htable⟩
    exact ⟨⟨⟨⟨hcontent, trivial⟩, hrows, trivial⟩, trivial⟩, trivial⟩
  obtain ⟨hcalls, hreplay⟩ := silent_iff_bracketed doc
  obtain ⟨hiff, -, hlayout⟩ := hcalls calls
  have hbracketed : Bracketed Call.bracket calls := hparses.bracketed
  exact ⟨hbracketed, hparses, hiff.mpr hbracketed, hlayout blocks hparses, hnodes,
    hreplay blocks hnodes⟩

end MarkdownTree
