import MarkdownTree.Proofs.Layout.Brackets

/-!
# Layouts with one text faded out

Where calls stand for blocks, fading out the text of one of the calls fades out one text of the
blocks, however deep it is inside of quotes, headings and lists.

* `Fades`, `FadesItem` — blocks and the same with one text faded out.
* `Parses.exists_fades` — how these come from the calls.
-/

namespace MarkdownTree

mutual

/-- Whether some blocks are the other ones with one text faded out. -/
inductive Fades : List LayoutBlock → List LayoutBlock → Prop
  | text {spans : List Span} {blocks : List LayoutBlock} :
      Fades (.text spans false :: blocks) (.text spans true :: blocks)
  | later {block : LayoutBlock} {blocks blocks' : List LayoutBlock} : Fades blocks blocks' →
      Fades (block :: blocks) (block :: blocks')
  | quote {content content' blocks : List LayoutBlock} : Fades content content' →
      Fades (.quote content :: blocks) (.quote content' :: blocks)
  | heading {level : Nat} {content content' blocks : List LayoutBlock} : Fades content content' →
      Fades (.heading level content :: blocks) (.heading level content' :: blocks)
  | list {kind : ListKind} {start : Int} {items items' : List (List LayoutBlock)}
      {blocks : List LayoutBlock} : FadesItem items items' →
      Fades (.list kind start items :: blocks) (.list kind start items' :: blocks)

/-- The same for the items of a list. -/
inductive FadesItem : List (List LayoutBlock) → List (List LayoutBlock) → Prop
  | here {content content' : List LayoutBlock} {items : List (List LayoutBlock)} :
      Fades content content' → FadesItem (content :: items) (content' :: items)
  | later {content : List LayoutBlock} {items items' : List (List LayoutBlock)} :
      FadesItem items items' → FadesItem (content :: items) (content :: items')

end

/-- An element of a sequence with something else in its middle stands in front of it or behind. -/
theorem split_at_middle {α : Type} {inner rest before after : List α} {stop a : α} (hne : stop ≠ a)
    (h : inner ++ stop :: rest = before ++ a :: after) :
    (∃ after', inner = before ++ a :: after' ∧ after = after' ++ stop :: rest) ∨
      ∃ before', before = inner ++ stop :: before' ∧ rest = before' ++ a :: after := by
  rcases List.append_eq_append_iff.mp h with ⟨middle, rfl, hmiddle⟩ | ⟨middle, rfl, hmiddle⟩
  · cases middle with
    | nil => exact absurd (List.cons.inj hmiddle).1 hne
    | cons b middle =>
      obtain ⟨rfl, rfl⟩ := List.cons.inj hmiddle
      exact .inr ⟨middle, rfl, rfl⟩
  · cases middle with
    | nil => exact absurd (List.cons.inj hmiddle).1.symm hne
    | cons b middle =>
      obtain ⟨rfl, rfl⟩ := List.cons.inj hmiddle
      exact .inl ⟨middle, rfl, rfl⟩

-- By recursion on the parse: the call is a block by itself, or it is one of those inside of a
-- container, or one of those behind it.
mutual

/-- **Fading out the text of one call** fades out one text of the blocks that the calls stand for,
wherever the call is. -/
theorem Parses.exists_fades {doc : Document} {id : NodeId} : ∀ {calls : List Call}
    {blocks : List LayoutBlock}, Parses doc calls blocks → ∀ {before after : List Call},
      calls = before ++ .text id false :: after →
        ∃ blocks', Parses doc (before ++ .text id true :: after) blocks' ∧ Fades blocks blocks'
  | _, _, .nil, before, after, hcalls => by simp at hcalls
  | _, _, .leaf hblock h, [], after, hcalls => by
    obtain ⟨rfl, rfl⟩ := List.cons.inj hcalls
    cases hblock
    exact ⟨_, .leaf rfl h, .text⟩
  | _, _, .leaf hblock h, call :: before, after, hcalls => by
    obtain ⟨rfl, hrest⟩ := List.cons.inj hcalls
    obtain ⟨blocks', hparses, hfades⟩ := h.exists_fades hrest
    exact ⟨_, .leaf hblock hparses, .later hfades⟩
  | _, _, .quote hi h, [], after, hcalls => by cases hcalls
  | _, _, .quote hi h, call :: before, after, hcalls => by
    obtain ⟨rfl, hsplit⟩ := List.cons.inj hcalls
    rcases split_at_middle (by simp) hsplit with ⟨after', hinner, rfl⟩ | ⟨before', rfl, hrest⟩
    · obtain ⟨content', hparses, hfades⟩ := hi.exists_fades hinner
      refine ⟨_, ?_, .quote hfades⟩
      simpa using Parses.quote hparses h
    · obtain ⟨blocks', hparses, hfades⟩ := h.exists_fades hrest
      refine ⟨_, ?_, .later hfades⟩
      simpa using Parses.quote hi hparses
  | _, _, .heading hi h, [], after, hcalls => by cases hcalls
  | _, _, .heading hi h, call :: before, after, hcalls => by
    obtain ⟨rfl, hsplit⟩ := List.cons.inj hcalls
    rcases split_at_middle (by simp) hsplit with ⟨after', hinner, rfl⟩ | ⟨before', rfl, hrest⟩
    · obtain ⟨content', hparses, hfades⟩ := hi.exists_fades hinner
      refine ⟨_, ?_, .heading hfades⟩
      simpa using Parses.heading hparses h
    · obtain ⟨blocks', hparses, hfades⟩ := h.exists_fades hrest
      refine ⟨_, ?_, .later hfades⟩
      simpa using Parses.heading hi hparses
  | _, _, .list hi h, [], after, hcalls => by cases hcalls
  | _, _, .list hi h, call :: before, after, hcalls => by
    obtain ⟨rfl, hsplit⟩ := List.cons.inj hcalls
    rcases split_at_middle (by simp) hsplit with ⟨after', hinner, rfl⟩ | ⟨before', rfl, hrest⟩
    · obtain ⟨items', hparses, hfades⟩ := hi.exists_fadesItem hinner
      refine ⟨_, ?_, .list hfades⟩
      simpa using Parses.list hparses h
    · obtain ⟨blocks', hparses, hfades⟩ := h.exists_fades hrest
      refine ⟨_, ?_, .later hfades⟩
      simpa using Parses.list hi hparses

theorem ParsesItems.exists_fadesItem {doc : Document} {id : NodeId} : ∀ {calls : List Call}
    {items : List (List LayoutBlock)}, ParsesItems doc calls items → ∀ {before after : List Call},
      calls = before ++ .text id false :: after →
        ∃ items', ParsesItems doc (before ++ .text id true :: after) items' ∧ FadesItem items items'
  | _, _, .nil, before, after, hcalls => by simp at hcalls
  | _, _, .item hi h, [], after, hcalls => by cases hcalls
  | _, _, .item hi h, call :: before, after, hcalls => by
    obtain ⟨rfl, hsplit⟩ := List.cons.inj hcalls
    rcases split_at_middle (by simp) hsplit with ⟨after', hinner, rfl⟩ | ⟨before', rfl, hrest⟩
    · obtain ⟨content', hparses, hfades⟩ := hi.exists_fades hinner
      refine ⟨_, ?_, .here hfades⟩
      simpa using ParsesItems.item hparses h
    · obtain ⟨items', hparses, hfades⟩ := h.exists_fadesItem hrest
      refine ⟨_, ?_, .later hfades⟩
      simpa using ParsesItems.item hi hparses

end

end MarkdownTree
