import MarkdownTree.Proofs.Assembly.Balance
import MarkdownTree.Proofs.Assembly.Definitions
import MarkdownTree.Proofs.Tree.Mark

/-!
# Definitions disturb nothing

Whatever the events are, the definitions that an assembly inserts come on top of the tree without
them. They are inserted in source order, each once, and behind balanced events none is left.

* `Draft.Records` — which definitions are in the tree of a draft, and which are still to come. Every
  move keeps this.
* `Document.exists_draft` — the assembly of any events, as a draft with what holds of it.
* `assemble_erase` — the document with definitions against the document without.
-/

namespace MarkdownTree

/-- Neither a definition nor a marked paragraph. -/
def NodeKind.IsCommon (k : NodeKind) : Prop :=
  k.isDefinition = false ∧ k.plain = k

theorem NodeKind.isCommon_of_isAtom {k : NodeKind} (h : k.isAtom = true) : k.IsCommon := by
  unfold isAtom at h
  split at h
  · exact ⟨rfl, rfl⟩
  · exact ⟨rfl, rfl⟩
  · exact ⟨rfl, rfl⟩
  · exact ⟨rfl, rfl⟩
  · cases h
  · exact ⟨rfl, rfl⟩

theorem Frame.isCommon_of_opens {f : Frame} {k : NodeKind} (h : f.opens k = true) :
    k.IsCommon := by
  cases k with
  | inline i => exact ⟨rfl, rfl⟩
  | block b =>
    cases b with
    | paragraph fadeOut =>
      cases fadeOut with
      | false => exact ⟨rfl, rfl⟩
      | true => cases f <;> cases h
    | linkReferenceDefinition label destination title => cases f <;> cases h
    | _ => exact ⟨rfl, rfl⟩

theorem NodeKind.blockType?_of_acceptsDefinitions {k : NodeKind}
    (h : k.acceptsDefinitions = true) :
    k.blockType? ∈ [some .document, some .blockQuote, some .listItem, some .footDefinition,
      some .footReferenceDefinition] := by
  unfold acceptsDefinitions at h
  split at h
  · decide
  · decide
  · decide
  · simp [blockType?, Block.type]
  · simp [blockType?, Block.type]
  · cases h

namespace Assembly

/-! ## Definitions that are inserted and to come -/

namespace Draft

/-- The definitions in the tree of a draft, in document order, and behind them the pending ones are
the given ones. No paragraph is marked. -/
structure Records (definitions : List Definition) (d : Draft) : Prop where
  inserted : ∃ inserted, inserted ++ d.pending = definitions ∧
    d.zipper.tree.kinds.filter NodeKind.isDefinition = inserted.map Definition.kind
  unmarked : d.zipper.tree.Unmarked

/-- A node that is no definition. -/
theorem Records.common {definitions pending : List Definition} {z z' : Zipper}
    {frames frames' : List Frame} (h : Records definitions ⟨z, frames, pending⟩) {k : NodeKind}
    (hk : k.IsCommon) (hkinds : z'.tree.kinds = z.tree.kinds ++ [k]) :
    Records definitions ⟨z', frames', pending⟩ := by
  obtain ⟨⟨inserted, hsplit, hfilter⟩, hunmarked⟩ := h
  refine ⟨⟨inserted, hsplit, ?_⟩, ?_⟩
  · rw [hkinds, List.filter_append, hfilter, List.filter_cons_of_neg (by simp [hk.1]),
      List.filter_nil, List.append_nil]
  · show ∀ k ∈ z'.tree.kinds, k.plain = k
    rw [hkinds, List.forall_mem_append]
    exact ⟨hunmarked, List.forall_mem_singleton.mpr hk.2⟩

/-- **Every move keeps the record.** -/
theorem Records.move {definitions : List Definition} {d d' : Draft} (h : d.Records definitions)
    (hmove : Move d d') : d'.Records definitions := by
  cases hmove with
  | @leaf z frames pending k hk _ =>
    exact h.common (NodeKind.isCommon_of_isAtom hk) (z.kinds_tree_append _)
  | @enter z frames pending f k hf _ =>
    exact h.common (Frame.isCommon_of_opens hf) (z.kinds_tree_openNode k)
  | @leave z frames pending f _ =>
    obtain ⟨hinserted, hunmarked⟩ := h
    rw [← Zipper.tree_close] at hinserted hunmarked
    exact ⟨hinserted, hunmarked⟩
  | push _ => exact ⟨h.inserted, h.unmarked⟩
  | drop _ => exact ⟨h.inserted, h.unmarked⟩
  | @insert z frames pending d _ =>
    obtain ⟨⟨inserted, hsplit, hfilter⟩, hunmarked⟩ := h
    have hkinds : (z.append [.node d.kind []]).tree.kinds = z.tree.kinds ++ [d.kind] :=
      z.kinds_tree_append _
    refine ⟨⟨inserted ++ [d], ?_, ?_⟩, ?_⟩
    · rw [← hsplit, List.append_assoc, List.singleton_append]
    · rw [hkinds, List.filter_append, hfilter, List.map_append]
      rfl
    · show ∀ k ∈ (z.append [.node d.kind []]).tree.kinds, k.plain = k
      rw [hkinds, List.forall_mem_append]
      exact ⟨hunmarked, List.forall_mem_singleton.mpr rfl⟩

theorem Records.moves {definitions : List Definition} {d d' : Draft} (h : d.Records definitions)
    (hmoves : Relation.ReflTransGen Move d d') : d'.Records definitions :=
  of_moves (fun _ _ h hmove => h.move hmove) h hmoves

theorem Records.begin (definitions : List Definition) :
    Records definitions ⟨.new, [], definitions⟩ where
  inserted := ⟨[], rfl, rfl⟩
  unmarked := List.forall_mem_singleton.mpr rfl

end Draft

/-! ## The end of the source -/

theorem insertBefore_of_forall_lt {position : Nat} :
    ∀ (definitions : List Definition) (b : Builder), (∀ d ∈ definitions, d.first < position) →
      (insertBefore position b definitions).2 = []
  | [], _, _ => rfl
  | d :: ds, b, h => by
    obtain ⟨hd, hds⟩ := List.forall_mem_cons.mp h
    rw [insertBefore, if_pos hd]
    exact insertBefore_of_forall_lt ds _ hds

/-- Where no tag is open, everything that is left is inserted. -/
theorem pending_flush_eq_nil {d : Draft} (hd : d.Rooted) (hframes : d.frames = []) {position : Nat}
    (h : ∀ e ∈ d.pending, e.first < position) : (d.assembly.flush position).pending = [] := by
  have haccepts : d.assembly.acceptsDefinitions = true := by
    obtain ⟨z, frames, pending⟩ := d
    cases hframes
    have hkind : z.layer.kind = .block .document := hd.kind_eq rfl
    simp only [acceptsDefinitions, Draft.assembly, Zipper.currentKind_builder, hkind]
    rfl
  rw [flush, if_pos haccepts]
  exact insertBefore_of_forall_lt d.pending d.zipper.builder h

end Assembly

namespace Definition

theorem sorted_perm (definitions : List Definition) : (sorted definitions).Perm definitions :=
  (List.mergeSort_perm _ _).trans (List.reverse_perm definitions)

/-- Definitions that start at different places start one behind the other. -/
theorem pairwise_sorted {definitions : List Definition} (h : (definitions.map first).Nodup) :
    (sorted definitions).Pairwise fun d e => d.first < e.first := by
  have hle : (sorted definitions).Pairwise fun d e => d.first ≤ e.first := by
    have hsort : (sorted definitions).Pairwise fun d e => decide (d.first ≤ e.first) = true := by
      refine List.pairwise_mergeSort ?_ ?_ definitions.reverse
      · intro a b c hab hbc
        simp only [decide_eq_true_eq] at hab hbc ⊢
        exact Nat.le_trans hab hbc
      · intro a b
        simp only [Bool.or_eq_true, decide_eq_true_eq]
        exact Nat.le_total a.first b.first
    exact hsort.imp fun hde => of_decide_eq_true hde
  have hne : (sorted definitions).Pairwise fun d e => d.first ≠ e.first := by
    rw [← List.pairwise_map (f := first) (R := (· ≠ ·))]
    exact ((sorted_perm definitions).map first).nodup_iff.mpr h
  exact hle.imp₂ (fun _ _ hle hne => Nat.lt_of_le_of_ne hle hne) hne

/-- Definitions that start one behind the other are sorted. -/
theorem sorted_eq_self {definitions : List Definition}
    (h : definitions.Pairwise fun d e => d.first < e.first) : sorted definitions = definitions := by
  have hdistinct : (definitions.map first).Nodup := List.pairwise_map.mpr (h.imp Nat.ne_of_lt)
  refine (sorted_perm definitions).eq_of_pairwise ?_ (pairwise_sorted hdistinct) h
  intro d e _ _ hde hed
  exact absurd hde (Nat.lt_asymm hed)

end Definition

namespace Document

open Assembly

/-- The assembly of all events, with the definitions that are left. -/
def finished (events : List Located) (definitions : List Definition) : Assembly :=
  (events.foldl step (.begin definitions)).flush endOfSource

/-- **What holds behind all events.** -/
theorem exists_draft (events : List Located) (definitions : List Definition) :
    ∃ d : Draft, finished events definitions = d.assembly ∧ d.Rooted ∧
      d.Records (Definition.sorted definitions) ∧
      (Located.Balanced 0 events → Located.Enclosed 0 events →
        (∀ e ∈ definitions, e.first < endOfSource) → d.pending = []) := by
  let start : Draft := ⟨.new, [], Definition.sorted definitions⟩
  have hrooted : start.Rooted := .begin _
  have hrecords : start.Records (Definition.sorted definitions) := .begin _
  have hstart : begin definitions = start.assembly := rfl
  obtain ⟨d, hd, hmoves⟩ := start.leads_foldl_step events
  obtain ⟨d', hd', hmoves'⟩ := d.leads_flush endOfSource
  have hrooted' := hrooted.moves hmoves
  refine ⟨d', ?_, hrooted'.moves hmoves', (hrecords.moves hmoves).moves hmoves', ?_⟩
  · rw [finished, hstart, hd, hd']
  · intro hbalanced henclosed hbound
    have hframes : d.frames = [] := by
      have hfold := nested_foldl_step events hrooted .nil hbalanced henclosed
      rw [hd] at hfold
      exact hfold
    -- what is pending is among the definitions, and these start before the end of the source
    obtain ⟨inserted, hsplit, -⟩ := (hrecords.moves hmoves).inserted
    have hpending : ∀ e ∈ d.pending, e.first < endOfSource := by
      intro e he
      refine hbound e ((Definition.sorted_perm definitions).subset ?_)
      rw [← hsplit]
      exact List.mem_append_right inserted he
    have hflush := pending_flush_eq_nil hrooted' hframes hpending
    rw [hd'] at hflush
    exact hflush

/-- The tree of some events before a paragraph is marked. -/
def assembled (events : List Located) (definitions : List Definition) : Tree :=
  (assemble events definitions false).tree

section

variable {events : List Located} {definitions : List Definition}

theorem assemble_of_finished {z : Zipper} (h : (finished events definitions).builder = z.builder) :
    assemble events definitions false = z.tree.document := by
  show (finished events definitions).builder.document = _
  rw [h, Zipper.document_builder]

theorem assembled_of_finished {z : Zipper} (h : (finished events definitions).builder = z.builder) :
    assembled events definitions = z.tree := by
  rw [assembled, assemble_of_finished h, Tree.tree_document]

variable (events definitions)

theorem document_assembled :
    assemble events definitions false = (assembled events definitions).document := by
  obtain ⟨d, hd, -⟩ := exists_draft events definitions
  have hbuilder : (finished events definitions).builder = d.zipper.builder := by rw [hd]; rfl
  rw [assembled_of_finished hbuilder, assemble_of_finished hbuilder]

theorem kind_assembled : (assembled events definitions).kind = .block .document := by
  obtain ⟨d, hd, hrooted, -⟩ := exists_draft events definitions
  have hdocument := hrooted.document
  rw [Tree.head?_kinds] at hdocument
  rw [assembled_of_finished (by rw [hd]; rfl : _ = d.zipper.builder)]
  exact Option.some.inj hdocument

theorem unmarked_assembled : (assembled events definitions).Unmarked := by
  obtain ⟨d, hd, -, hrecords, -⟩ := exists_draft events definitions
  rw [assembled_of_finished (by rw [hd]; rfl : _ = d.zipper.builder)]
  exact hrecords.unmarked

/-- The definitions in the tree are a first part of them in source order, and all of them behind
balanced events. -/
theorem exists_inserted : ∃ inserted pending : List Definition,
    inserted ++ pending = Definition.sorted definitions ∧
    (assembled events definitions).kinds.filter NodeKind.isDefinition =
      inserted.map Definition.kind ∧
    (Located.Balanced 0 events → Located.Enclosed 0 events →
      (∀ e ∈ definitions, e.first < endOfSource) → pending = []) := by
  obtain ⟨d, hd, -, ⟨⟨inserted, hsplit, hfilter⟩, -⟩, hpending⟩ := exists_draft events definitions
  refine ⟨inserted, d.pending, hsplit, ?_, hpending⟩
  rw [assembled_of_finished (by rw [hd]; rfl : _ = d.zipper.builder)]
  exact hfilter

theorem undefined_assembled : (assembled events []).Undefined := by
  obtain ⟨inserted, pending, hsplit, hfilter, -⟩ := exists_inserted events []
  have hnil : inserted = [] := by
    rw [Definition.sorted_nil] at hsplit
    exact (List.append_eq_nil_iff.mp hsplit).1
  rw [hnil, List.map_nil, List.filter_eq_nil_iff] at hfilter
  intro k hk
  exact Bool.eq_false_iff.mpr (hfilter k hk)

/-- **With definitions the tree enriches the one without.** -/
theorem enriches_assembled : (assembled events definitions).Enriches (assembled events []) := by
  have hrun := (Enriches.begin definitions).foldl_step events
  have hfinished : (finished events definitions).Enriches (finished events []) := by
    have hflush := hrun.flush endOfSource
    rwa [← flush_of_pending_nil hrun.pending endOfSource] at hflush
  obtain ⟨z, z', hz, hz', henriches⟩ := hfinished.builder
  rw [assembled_of_finished hz, assembled_of_finished hz']
  exact henriches.tree

end

/-- A tree whose document has its trailing paragraph marked, and the same without definitions. -/
theorem exists_marked (events : List Located) (definitions : List Definition) (fadeOut : Bool) :
    ∃ t : Tree, assemble events definitions fadeOut = t.document ∧
      assemble events [] fadeOut = t.erase.document ∧ t.Enriches (assembled events []) ∧
      t.kinds.filter NodeKind.isDefinition =
        (assembled events definitions).kinds.filter NodeKind.isDefinition := by
  have henriches := enriches_assembled events definitions
  have hundefined := undefined_assembled events
  have herase : (assembled events definitions).erase = assembled events [] :=
    henriches.erase_eq (unmarked_assembled events definitions) (unmarked_assembled events [])
      hundefined
  have hdocument := document_assembled events definitions
  have hdocument' := document_assembled events []
  cases fadeOut with
  | false => exact ⟨_, hdocument, by rw [hdocument', herase], henriches, rfl⟩
  | true =>
    have hmark : ∀ ds,
        assemble events ds true = (assembled events ds).document.markTrailingParagraph :=
      fun ds => congrArg markTrailingParagraph (document_assembled events ds)
    rcases (assembled events definitions).exists_marksLast with ⟨t, ht⟩ | hnone
    · have ht' := ht.erase henriches hundefined
      rw [herase] at ht'
      exact ⟨t, by rw [hmark, ht.document], by rw [hmark, ht'.document], ht.enriches henriches,
        ht.filter_isDefinition⟩
    · -- without a paragraph nothing is marked in either document
      have hnone' : NoParagraph (assembled events []).kinds := by
        rw [← herase]
        intro k hk
        exact hnone k ((Tree.kinds_erase_sublist _).subset hk)
      refine ⟨_, ?_, ?_, henriches, rfl⟩
      · rw [hmark, markTrailingParagraph_of_noParagraph (by rwa [Tree.kinds_document])]
      · rw [hmark, herase, markTrailingParagraph_of_noParagraph (by rwa [Tree.kinds_document])]

end Document

/-- **Definitions disturb nothing and none is lost.** Whatever the events are, the document is that
of a tree whose definitions are leaves under containers that hold blocks, and without them it is
the document of the same events with no definitions. In document order the definitions are in source
order, each of them once at most, and each of them once if starts and ends of tags match and every
inline event lies inside of a tag. -/
theorem assemble_erase (events : List Located) (definitions : List Definition) (fadeOut : Bool)
    (hdistinct : (definitions.map Definition.first).Nodup)
    (hbound : ∀ d ∈ definitions, d.first < Assembly.endOfSource) :
    ∃ (t : Tree) (inserted : List Definition),
      Document.assemble events definitions fadeOut = t.document ∧
      Document.assemble events [] fadeOut = t.erase.document ∧
      t.kinds.filter NodeKind.isDefinition = inserted.map Definition.kind ∧
      inserted.Pairwise (fun d e => d.first < e.first) ∧
      (∀ d ∈ inserted, d ∈ definitions) ∧
      t.kind = .block .document ∧
      (∀ u ∈ t.subtrees, ∀ c ∈ u.children, c.kind.isDefinition = true →
        c.children = [] ∧
          u.kind.blockType? ∈ [some .document, some .blockQuote, some .listItem,
            some .footDefinition, some .footReferenceDefinition]) ∧
      (Located.Balanced 0 events → Located.Enclosed 0 events → inserted.Perm definitions) := by
  obtain ⟨t, hdocument, herase, henriches, hfilter⟩ :=
    Document.exists_marked events definitions fadeOut
  obtain ⟨inserted, pending, hsplit, hinserted, hpending⟩ :=
    Document.exists_inserted events definitions
  have hsorted := Definition.pairwise_sorted hdistinct
  have hperm := Definition.sorted_perm definitions
  rw [← hsplit] at hsorted hperm
  refine ⟨t, inserted, hdocument, herase, by rw [hfilter, hinserted], ?_, ?_, ?_, ?_, ?_⟩
  · exact (List.pairwise_append.mp hsorted).1
  · intro d hd
    exact hperm.subset (List.mem_append_left pending hd)
  · have hkind := henriches.plain_kind
    rw [Document.kind_assembled] at hkind
    exact NodeKind.eq_of_plain_eq hkind rfl
  · intro u hu c hc hkind
    obtain ⟨hleaf, haccepts⟩ :=
      henriches.definition_child (Document.undefined_assembled events) u hu c hc hkind
    exact ⟨hleaf, NodeKind.blockType?_of_acceptsDefinitions haccepts⟩
  · intro hbalanced henclosed
    rw [hpending hbalanced henclosed hbound, List.append_nil] at hperm
    exact hperm

/-- A definition in a quote and one behind it, given the other way round. -/
theorem assemble_erase_quote :
    let events : List Located := [⟨.start .blockQuote, 0, 20⟩, ⟨.start .paragraph, 2, 7⟩,
      ⟨.text "text", 2, 6⟩, ⟨.stop, 2, 7⟩, ⟨.stop, 0, 20⟩]
    let x : Definition := ⟨"x", "/u", some "title", 11⟩
    let y : Definition := ⟨"y", "/v", none, 21⟩
    ([y, x].map Definition.first).Nodup ∧ (∀ d ∈ [y, x], d.first < Assembly.endOfSource) ∧
      Located.Balanced 0 events ∧ Located.Enclosed 0 events ∧
      ∃ t : Tree, Document.assemble events [y, x] true = t.document ∧
        Document.assemble events [] true = t.erase.document ∧
        t.kinds.filter NodeKind.isDefinition = [x.kind, y.kind] := by
  intro events x y
  have hdistinct : ([y, x].map Definition.first).Nodup := by decide
  have hbound : ∀ d ∈ [y, x], d.first < Assembly.endOfSource := by decide
  have hbalanced : Located.Balanced 0 events := by decide
  have henclosed : Located.Enclosed 0 events := by decide
  refine ⟨hdistinct, hbound, hbalanced, henclosed, ?_⟩
  obtain ⟨t, inserted, hdocument, herase, hkinds, hpairwise, -, -, -, hperm⟩ :=
    assemble_erase events [y, x] true hdistinct hbound
  -- there is one order in which both of them are inserted
  have hinserted : inserted = [x, y] := by
    refine List.Perm.eq_of_pairwise (fun d e _ _ h h' => absurd h (Nat.lt_asymm h')) hpairwise ?_
      ((hperm hbalanced henclosed).trans (.swap x y []))
    decide
  exact ⟨t, hdocument, herase, by rw [hkinds, hinserted]; rfl⟩

end MarkdownTree
