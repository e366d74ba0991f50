import MarkdownTree.Proofs.Tree.Zipper

/-!
# Trees with definitions and a fading paragraph

Two things are put into a document that is otherwise complete: link reference definitions are
inserted among the children of some nodes, and a paragraph may be marked as fading. Neither changes
what a document says. This module relates a tree to the same tree without them.

* `Tree.Enriches` — a tree is another one with definitions, where these may stand, and marks.
* `Zipper.Enriches` — the same for a tree under construction.
* `Builder.Enriches` — the same for builders, kept by every operation on both and by a definition
  that is appended to one of them.
* `Marks.exists_holds` — marking a paragraph keeps what the tree enriches.
-/

namespace MarkdownTree

/-- A kind without its mark. -/
def NodeKind.plain : NodeKind → NodeKind
  | .block (.paragraph _) => .block (.paragraph false)
  | k => k

theorem NodeKind.plain_of_isParagraph {k : NodeKind} (h : k.isParagraph = true) :
    k.plain = .block (.paragraph false) := by
  match k, h with
  | .block (.paragraph _), _ => rfl

/-- What is the same for all paragraphs does not depend on marks. -/
theorem NodeKind.apply_plain {f : NodeKind → Bool}
    (h : ∀ fadeOut, f (.block (.paragraph false)) = f (.block (.paragraph fadeOut)))
    (k : NodeKind) : f k.plain = f k := by
  unfold plain
  split
  · exact h _
  · rfl

theorem NodeKind.acceptsDefinitions_plain (k : NodeKind) :
    k.plain.acceptsDefinitions = k.acceptsDefinitions :=
  apply_plain (fun _ => rfl) k

/-- Only paragraphs have marks. -/
theorem NodeKind.eq_of_plain_eq {k k' : NodeKind} (h : k.plain = k'.plain)
    (hk' : k'.isParagraph = false) : k = k' := by
  have hplain' : k'.plain = k' := by
    unfold plain
    split
    · cases hk'
    · rfl
  rw [hplain'] at h
  unfold plain at h
  split at h
  · rw [← h] at hk'
    cases hk'
  · exact h

theorem NodeKind.exists_paragraph_of_plain_eq {k : NodeKind} {fadeOut : Bool}
    (h : k.plain = .block (.paragraph fadeOut)) : ∃ fadeOut', k = .block (.paragraph fadeOut') := by
  unfold plain at h
  split at h
  · exact ⟨_, rfl⟩
  · exact ⟨_, h⟩

/-- A link reference definition as a tree. -/
def Tree.definition (label destination : String) (title : Option String) : Tree :=
  .node (.block (.linkReferenceDefinition label destination title)) []

mutual

/-- `t.Enriches u`: the tree `t` is `u` with marks, and with definitions under nodes that accept
them. -/
inductive Tree.Enriches : Tree → Tree → Prop
  | node {k k' : NodeKind} {cs cs' : List Tree} : k.plain = k'.plain →
      Tree.EnrichesAll k.acceptsDefinitions cs cs' → Tree.Enriches (.node k cs) (.node k' cs')

/-- The same for siblings, under a node that accepts definitions or does not. -/
inductive Tree.EnrichesAll : Bool → List Tree → List Tree → Prop
  | nil {accepts : Bool} : Tree.EnrichesAll accepts [] []
  | cons {accepts : Bool} {t u : Tree} {ts us : List Tree} : Tree.Enriches t u →
      Tree.EnrichesAll accepts ts us → Tree.EnrichesAll accepts (t :: ts) (u :: us)
  | definition (label destination : String) (title : Option String) {ts us : List Tree} :
      Tree.EnrichesAll true ts us →
      Tree.EnrichesAll true (.definition label destination title :: ts) us

end

namespace Tree

theorem EnrichesAll.append : ∀ {accepts : Bool} {ts us ts' us' : List Tree},
    EnrichesAll accepts ts us → EnrichesAll accepts ts' us' →
      EnrichesAll accepts (ts ++ ts') (us ++ us')
  | _, _, _, _, _, .nil, h' => h'
  | _, _, _, _, _, .cons ht h, h' => .cons ht (h.append h')
  | _, _, _, _, _, .definition label destination title h, h' =>
    .definition label destination title (h.append h')

end Tree

/-! ## Trees under construction -/

/-- An open container enriches another one. -/
structure Layer.Enriches (l l' : Layer) : Prop where
  kind_eq : l.kind = l'.kind
  done : Tree.EnrichesAll l.kind.acceptsDefinitions l.done l'.done

namespace Layer.Enriches

variable {l l' : Layer}

theorem close (h : l.Enriches l') : l.close.Enriches l'.close :=
  .node (by rw [h.kind_eq]) h.done

theorem append (h : l.Enriches l') {ts us : List Tree}
    (hts : Tree.EnrichesAll l.kind.acceptsDefinitions ts us) :
    (l.append ts).Enriches (l'.append us) :=
  ⟨h.kind_eq, h.done.append hts⟩

end Layer.Enriches

/-- A tree under construction enriches another one at the same place. -/
structure Zipper.Enriches (z z' : Zipper) : Prop where
  layer : z.layer.Enriches z'.layer
  outer : List.Forall₂ Layer.Enriches z.outer z'.outer

namespace Zipper.Enriches

variable {z z' : Zipper}

theorem append (h : z.Enriches z') {ts us : List Tree}
    (hts : Tree.EnrichesAll z.layer.kind.acceptsDefinitions ts us) :
    (z.append ts).Enriches (z'.append us) :=
  ⟨h.layer.append hts, h.outer⟩

theorem openNode (h : z.Enriches z') (kind : NodeKind) :
    (z.openNode kind).Enriches (z'.openNode kind) :=
  ⟨⟨rfl, .nil⟩, .cons h.layer h.outer⟩

theorem close (h : z.Enriches z') : z.close.Enriches z'.close := by
  obtain ⟨l, outer⟩ := z
  obtain ⟨l', outer'⟩ := z'
  obtain ⟨hlayer, houter⟩ := h
  cases houter with
  | nil => exact ⟨hlayer, .nil⟩
  | cons hl houter => exact ⟨hl.append (.cons hlayer.close .nil), houter⟩

/-- Closing all containers keeps the relation. -/
theorem tree (h : z.Enriches z') : z.tree.Enriches z'.tree := by
  have hplug : ∀ {ls ls' : List Layer}, List.Forall₂ Layer.Enriches ls ls' →
      ∀ {t u : Tree}, t.Enriches u → (plug t ls).Enriches (plug u ls') := by
    intro ls ls' hls
    induction hls with
    | nil => exact id
    | cons hl _ ih => exact fun ht => ih (hl.append (.cons ht .nil)).close
  exact hplug h.outer h.layer.close

end Zipper.Enriches

/-! ## Builders -/

/-- A builder is that of a zipper which enriches the zipper of another builder. -/
def Builder.Enriches (b b' : Builder) : Prop :=
  ∃ z z' : Zipper, b = z.builder ∧ b' = z'.builder ∧ z.Enriches z'

namespace Builder.Enriches

variable {b b' : Builder}

theorem new : Builder.new.Enriches Builder.new :=
  ⟨.new, .new, rfl, rfl, ⟨⟨rfl, .nil⟩, .nil⟩⟩

theorem currentKind_eq (h : b.Enriches b') : b.currentKind = b'.currentKind := by
  obtain ⟨z, z', rfl, rfl, hz⟩ := h
  simpa using hz.layer.kind_eq

theorem leaf (h : b.Enriches b') (kind : NodeKind) : (b.leaf kind).Enriches (b'.leaf kind) := by
  obtain ⟨z, z', rfl, rfl, hz⟩ := h
  rw [Zipper.leaf_builder, Zipper.leaf_builder]
  exact ⟨_, _, rfl, rfl, hz.append (.cons (.node rfl .nil) .nil)⟩

theorem openNode (h : b.Enriches b') (kind : NodeKind) :
    (b.openNode kind).Enriches (b'.openNode kind) := by
  obtain ⟨z, z', rfl, rfl, hz⟩ := h
  rw [Zipper.openNode_builder, Zipper.openNode_builder]
  exact ⟨_, _, rfl, rfl, hz.openNode kind⟩

theorem close (h : b.Enriches b') : b.close.Enriches b'.close := by
  obtain ⟨z, z', rfl, rfl, hz⟩ := h
  rw [Zipper.close_builder, Zipper.close_builder]
  exact ⟨_, _, rfl, rfl, hz.close⟩

/-- **A definition in a container that accepts definitions enriches.** -/
theorem definition (h : b.Enriches b') (haccepts : b.currentKind.acceptsDefinitions = true)
    (label destination : String) (title : Option String) :
    (b.leaf (.block (.linkReferenceDefinition label destination title))).Enriches b' := by
  obtain ⟨z, z', rfl, rfl, hz⟩ := h
  rw [Zipper.currentKind_builder] at haccepts
  have hdef : Tree.EnrichesAll z.layer.kind.acceptsDefinitions
      [.definition label destination title] [] := by
    rw [haccepts]
    exact .definition label destination title .nil
  have happend := hz.append hdef
  rw [Zipper.append_nil] at happend
  exact ⟨_, z', Zipper.leaf_builder z _, rfl, happend⟩

end Builder.Enriches

/-! ## Marking a paragraph -/

namespace Document

/-- Two documents with the same links, whose kinds differ in marks only. -/
structure Marks (doc' doc : Document) : Prop where
  size_eq : doc'.size = doc.size
  firstChild?_eq : ∀ id, doc'.firstChild? id = doc.firstChild? id
  nextSibling?_eq : ∀ id, doc'.nextSibling? id = doc.nextSibling? id
  plain_eq : ∀ id, (doc'.kind id).plain = (doc.kind id).plain

theorem Marks.children_eq {doc' doc : Document} (h : doc'.Marks doc) (id : NodeId) :
    doc'.children id = doc.children id := by
  have hchain : ∀ (bound : Nat) (c : Option NodeId), doc'.chain bound c = doc.chain bound c := by
    intro bound
    induction bound with
    | zero => exact fun c => rfl
    | succ bound ih =>
      intro c
      cases c with
      | none => rfl
      | some c => rw [chain, chain, h.nextSibling?_eq, ih]
  rw [children, children, h.size_eq, h.firstChild?_eq, hchain]

theorem get?_setKind (doc : Document) (id : NodeId) (kind : NodeKind) (id' : NodeId) :
    (doc.setKind id kind).get? id' =
      (doc.get? id').map fun n => if id = id' then { n with kind } else n := by
  simp only [get?, setKind, Array.getElem?_modify]
  split
  · rfl
  · simp

/-- Setting a kind changes no link. -/
theorem bind_get?_setKind {α : Type} (doc : Document) (id : NodeId) (kind : NodeKind)
    {link : Node → Option α} (hlink : ∀ n, link { n with kind } = link n) (id' : NodeId) :
    ((doc.setKind id kind).get? id').bind link = (doc.get? id').bind link := by
  rw [get?_setKind, Option.bind_map]
  congr 1
  funext n
  simp only [Function.comp_apply]
  split
  · exact hlink n
  · rfl

theorem marks_setKind {doc : Document} {id : NodeId} (h : (doc.kind id).isParagraph = true) :
    (doc.setKind id (.block (.paragraph true))).Marks doc where
  size_eq := by simp [size, setKind]
  firstChild?_eq := doc.bind_get?_setKind id _ fun _ => rfl
  nextSibling?_eq := doc.bind_get?_setKind id _ fun _ => rfl
  plain_eq id' := by
    rw [kind, kind, get?_setKind]
    cases hget : doc.get? id' with
    | none => rfl
    | some n =>
      by_cases hid : id = id'
      · -- the node that is marked was a paragraph before
        subst hid
        rw [kind, hget] at h
        simp only [Option.map_some, if_pos, NodeKind.plain_of_isParagraph h]
        rfl
      · simp [if_neg hid]

theorem Marks.linked_children {doc' doc : Document} (h : doc'.Marks doc) {id : NodeId}
    (hlinked : Linked doc.nextSibling? (doc.firstChild? id) (doc.children id)) :
    Linked doc'.nextSibling? (doc'.firstChild? id) (doc'.children id) := by
  rw [h.firstChild?_eq, h.children_eq, funext h.nextSibling?_eq]
  exact hlinked

mutual

/-- A document with other marks shows a tree with other marks. -/
theorem Marks.exists_shows {doc' doc : Document} (hm : doc'.Marks doc) :
    ∀ {t u : Tree} {id : NodeId}, t.Enriches u → doc.Shows id t →
      ∃ t', doc'.Shows id t' ∧ t'.Enriches u ∧ t'.size = t.size
  | .node k cs, .node k' cs', id, .node hk hcs, h => by
    obtain ⟨hkind, hlinked, hshows⟩ := h
    obtain ⟨ts, hts, hcs', hsizes⟩ := Marks.exists_showsAll hm hcs hshows
    have hplain : (doc'.kind id).plain = k.plain := by rw [hm.plain_eq, hkind]
    have hlinked' := hm.linked_children hlinked
    rw [← hm.children_eq] at hts
    refine ⟨.node (doc'.kind id) ts, ⟨rfl, hlinked', hts⟩, ?_, by rw [Tree.size, Tree.size, hsizes]⟩
    refine .node (hplain.trans hk) ?_
    rwa [← NodeKind.acceptsDefinitions_plain, hplain, NodeKind.acceptsDefinitions_plain]

theorem Marks.exists_showsAll {doc' doc : Document} (hm : doc'.Marks doc) :
    ∀ {accepts : Bool} {ts us : List Tree} {ids : List NodeId},
      Tree.EnrichesAll accepts ts us → doc.ShowsAll ids ts →
      ∃ ts', doc'.ShowsAll ids ts' ∧ Tree.EnrichesAll accepts ts' us ∧
        Tree.sizes ts' = Tree.sizes ts
  | _, _, _, [], .nil, h => ⟨[], h, .nil, rfl⟩
  | _, _, _, _ :: _, .nil, h => by simp [ShowsAll] at h
  | _, _, _, [], .cons _ _, h => by simp [ShowsAll] at h
  | _, _, _, _ :: _, .cons ht hts, h => by
    obtain ⟨t', ht', hu, hsize⟩ := Marks.exists_shows hm ht h.1
    obtain ⟨ts', hts', hus, hsizes⟩ := Marks.exists_showsAll hm hts h.2
    exact ⟨t' :: ts', ⟨ht', hts'⟩, .cons hu hus, by rw [Tree.sizes, Tree.sizes, hsize, hsizes]⟩
  | _, _, _, [], .definition .., h => by simp [ShowsAll] at h
  | _, _, _, id :: _, .definition label destination title hts, h => by
    obtain ⟨ts', hts', hus, hsizes⟩ := Marks.exists_showsAll hm hts h.2
    obtain ⟨hkind, hlinked, hshows⟩ := h.1
    -- the node of a definition is no paragraph, and so it is the same node
    have hkind' : doc'.kind id = doc.kind id := by
      refine NodeKind.eq_of_plain_eq (hm.plain_eq id) ?_
      rw [hkind]
      rfl
    have hid : doc'.Shows id (.definition label destination title) := by
      refine ⟨hkind'.trans hkind, hm.linked_children hlinked, ?_⟩
      rw [hm.children_eq]
      cases hc : doc.children id with
      | nil => trivial
      | cons c cs => simp [hc, ShowsAll] at hshows
    exact ⟨_ :: ts', ⟨hid, hts'⟩, .definition label destination title hus, by
      rw [Tree.sizes, Tree.sizes, hsizes]⟩

end

/-- **Marking keeps what the tree enriches.** -/
theorem Marks.exists_holds {doc' doc : Document} (hm : doc'.Marks doc) {t u : Tree} {id : NodeId}
    (h : doc.Holds id t) (hu : t.Enriches u) : ∃ t', doc'.Holds id t' ∧ t'.Enriches u := by
  obtain ⟨t', ht', hu', hsize⟩ := hm.exists_shows hu h.shows
  exact ⟨t', ⟨ht', by rw [hsize, hm.size_eq]; exact h.size_le⟩, hu'⟩

end Document

end MarkdownTree
