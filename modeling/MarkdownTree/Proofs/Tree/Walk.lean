import MarkdownTree.Proofs.Tree.Order

/-!
# Walks down a document

A walk begins at a node and goes on from each of its nodes to some other ones, with a level that
grows on the way, down to a limit. Where it goes on to nodes that lie below, in document order, the
whole walk is in document order, since what is below a node takes up one stretch of numbers.

* `Document.walk` — the nodes of a walk with their levels.
* `walk_induction`, `mem_walk_iff` — what goes over from a node to the next ones holds of all nodes
  of a walk, and which nodes these are.
* `InStretch`, `StaysBelow` — nodes in document order within some numbers, and within the stretch
  of a node.
* `walk_staysBelow`, `pairwise_walk` — a walk that goes down stays in document order.
-/

namespace MarkdownTree

namespace Document

/-- The nodes of a walk from a node of a level on, with some levels left, where `next` says how to
go on from a node. -/
def walk (next : NodeId → List NodeId) : Nat → Nat → NodeId → List (NodeId × Nat)
  | 0, level, id => [(id, level)]
  | levels + 1, level, id => (id, level) :: (next id).flatMap (walk next levels (level + 1))

variable {doc : Document} {maxDepth : Nat}

/-! ## The nodes of a walk -/

section

variable {next : NodeId → List NodeId}

theorem mem_walk_self (next : NodeId → List NodeId) (levels level : Nat) (id : NodeId) :
    (id, level) ∈ walk next levels level id := by
  cases levels <;> exact List.mem_cons_self

/-- Within the limit, a walk goes on from each of its nodes. -/
theorem mem_walk_of_mem_next {c e : NodeId} {l : Nat} : ∀ {levels level : Nat} {id : NodeId},
    levels + level = maxDepth + 1 → (c, l) ∈ walk next levels level id → l ≤ maxDepth →
      e ∈ next c → (e, l + 1) ∈ walk next levels level id
  | 0, level, id, hlevels, hmem, hl, _ => by
    obtain ⟨rfl, rfl⟩ := Prod.mk.inj (List.mem_singleton.mp hmem)
    omega
  | levels + 1, level, id, hlevels, hmem, hl, he => by
    refine List.mem_cons_of_mem _ (List.mem_flatMap.mpr ?_)
    rcases List.mem_cons.mp hmem with heq | hmem
    · obtain ⟨rfl, rfl⟩ := Prod.mk.inj heq
      exact ⟨e, he, mem_walk_self next levels (l + 1) e⟩
    · obtain ⟨i, hi, hmem⟩ := List.mem_flatMap.mp hmem
      exact ⟨i, hi, mem_walk_of_mem_next (by omega) hmem hl he⟩

/-- What holds of the first node of a walk, and goes over from a node to those the walk goes on to,
holds of all nodes of the walk. -/
theorem walk_induction {P : NodeId → Nat → Prop} {c : NodeId} {l : Nat} :
    ∀ {levels level : Nat} {id : NodeId}, levels + level = maxDepth + 1 → P id level →
      (∀ {c e : NodeId} {l : Nat}, P c l → l ≤ maxDepth → e ∈ next c → P e (l + 1)) →
      (c, l) ∈ walk next levels level id → P c l
  | 0, level, id, _, hfirst, _, hmem => by
    obtain ⟨rfl, rfl⟩ := Prod.mk.inj (List.mem_singleton.mp hmem)
    exact hfirst
  | levels + 1, level, id, hlevels, hfirst, hnext, hmem => by
    rcases List.mem_cons.mp hmem with heq | hmem
    · obtain ⟨rfl, rfl⟩ := Prod.mk.inj heq
      exact hfirst
    · obtain ⟨e, he, hmem⟩ := List.mem_flatMap.mp hmem
      exact walk_induction (by omega) (hnext hfirst (by omega) he) hnext hmem

/-- A walk goes on to each of its nodes but the first from a node within the limit. -/
theorem mem_walk_iff {levels level : Nat} {id c : NodeId} {l : Nat}
    (hlevels : levels + level = maxDepth + 1) :
    (c, l) ∈ walk next levels level id ↔ (c = id ∧ l = level) ∨
      ∃ above k, (above, k) ∈ walk next levels level id ∧ k ≤ maxDepth ∧ c ∈ next above ∧
        l = k + 1 := by
  constructor
  · intro hmem
    let P (c : NodeId) (l : Nat) : Prop := (c, l) ∈ walk next levels level id ∧
      ((c = id ∧ l = level) ∨ ∃ above k, (above, k) ∈ walk next levels level id ∧ k ≤ maxDepth ∧
        c ∈ next above ∧ l = k + 1)
    have hfirst : P id level := ⟨mem_walk_self next levels level id, .inl ⟨rfl, rfl⟩⟩
    have hnext : ∀ {c e : NodeId} {l : Nat}, P c l → l ≤ maxDepth → e ∈ next c → P e (l + 1) :=
      fun ⟨hc, _⟩ hl he => ⟨mem_walk_of_mem_next hlevels hc hl he, .inr ⟨_, _, hc, hl, he, rfl⟩⟩
    exact (walk_induction hlevels hfirst hnext hmem).2
  · rintro (⟨rfl, rfl⟩ | ⟨above, k, habove, hk, hc, rfl⟩)
    · exact mem_walk_self next levels l c
    · exact mem_walk_of_mem_next hlevels habove hk hc

end

/-! ## Document order -/

/-- Whether some nodes stand in document order within the numbers from `first` up to `last`. -/
structure InStretch (first last : Nat) (ids : List Nat) : Prop where
  pairwise : ids.Pairwise (· < ·)
  bounds : ∀ id ∈ ids, first ≤ id ∧ id < last

namespace InStretch

variable {first middle last : Nat} {ids ids' : List Nat}

theorem nil : InStretch first last [] :=
  ⟨.nil, by simp⟩

theorem mono (h : InStretch first last ids) {first' last' : Nat} (hfirst : first' ≤ first)
    (hlast : last ≤ last') : InStretch first' last' ids := by
  refine ⟨h.pairwise, fun id hid => ?_⟩
  have := h.bounds id hid
  omega

theorem append (h : InStretch first middle ids) (h' : InStretch middle last ids')
    (hle : first ≤ middle) (hle' : middle ≤ last) : InStretch first last (ids ++ ids') := by
  refine ⟨List.pairwise_append.mpr ⟨h.pairwise, h'.pairwise, ?_⟩, fun id hid => ?_⟩
  · intro a ha b hb
    exact Nat.lt_of_lt_of_le (h.bounds a ha).2 (h'.bounds b hb).1
  · rcases List.mem_append.mp hid with hid | hid
    · exact (h.mono (Nat.le_refl first) hle').bounds id hid
    · exact (h'.mono hle (Nat.le_refl last)).bounds id hid

theorem cons (h : InStretch (first + 1) last ids) (hlt : first < last) :
    InStretch first last (first :: ids) := by
  have hfirst : InStretch first (first + 1) [first] := ⟨by simp, by simp⟩
  exact hfirst.append h (Nat.le_succ first) hlt

end InStretch

/-- Whether a list of nodes for each node stays within the stretch of that node. -/
def StaysBelow (doc : Document) (f : NodeId → List NodeId) : Prop :=
  ∀ ⦃parent next : Option NodeId⦄ ⦃id : NodeId⦄ ⦃t : Tree⦄, doc.Placed parent next id t →
    InStretch id (id + t.size) (f id)

theorem PlacedAll.flatMap_inStretch {f : NodeId → List NodeId} (hf : doc.StaysBelow f) :
    ∀ {ts : List Tree} {parent : Option NodeId} {id : Nat}, doc.PlacedAll parent id ts →
      InStretch id (id + Tree.sizes ts) ((Tree.ids id ts).flatMap f)
  | [], _, _, _ => .nil
  | t :: ts, parent, id, h => by
    have hrest := PlacedAll.flatMap_inStretch hf h.2
    rw [Nat.add_assoc] at hrest
    exact (hf h.1).append hrest (Nat.le_add_right _ _)
      (Nat.add_le_add_left (Nat.le_add_right _ _) _)

theorem Placed.flatMap_children_inStretch {f : NodeId → List NodeId} (hf : doc.StaysBelow f)
    {parent next : Option NodeId} {id : Nat} {t : Tree} (h : doc.Placed parent next id t) :
    InStretch (id + 1) (id + t.size) ((doc.children id).flatMap f) := by
  have hsize : id + t.size = id + 1 + Tree.sizes t.children := by
    cases t
    rw [Tree.size, Tree.children]
    omega
  rw [h.children_eq, hsize]
  exact h.placedAll_children.flatMap_inStretch hf

theorem StaysBelow.singleton (doc : Document) : doc.StaysBelow fun id => [id] :=
  fun _ _ _ t _ => InStretch.nil.cons (Nat.lt_add_of_pos_right t.size_pos)

theorem StaysBelow.children {f : NodeId → List NodeId} (hf : doc.StaysBelow f) :
    doc.StaysBelow fun id => (doc.children id).flatMap f :=
  fun _ _ _ _ h => (h.flatMap_children_inStretch hf).mono (Nat.le_succ _) (Nat.le_refl _)

theorem StaysBelow.ite {f : NodeId → List NodeId} (hf : doc.StaysBelow f) (p : NodeId → Bool) :
    doc.StaysBelow fun id => if p id then f id else [] := by
  intro parent next id t h
  dsimp only
  split
  · exact hf h
  · exact .nil

/-- In the document of a tree, nodes that stay below the children of a node stand in document
order. -/
theorem StaysBelow.pairwise_flatMap_children {t : Tree} {f : NodeId → List NodeId}
    (hf : t.document.StaysBelow f) (id : NodeId) :
    ((t.document.children id).flatMap f).Pairwise (· < ·) := by
  by_cases hid : id < t.document.size
  · obtain ⟨⟨parent, above, u, hplaced⟩, -⟩ := Tree.exists_placed_document hid
    exact (hplaced.flatMap_children_inStretch hf).pairwise
  · rw [children_eq_nil hid]
    exact .nil

/-! ## Walks that go down -/

/-- Whether nodes below those that a walk goes on to from a node stand in document order within the
stretch of this node, behind the node itself. -/
def GoesDown (doc : Document) (next : NodeId → List NodeId) : Prop :=
  ∀ ⦃f : NodeId → List NodeId⦄, doc.StaysBelow f →
    ∀ ⦃parent above : Option NodeId⦄ ⦃id : NodeId⦄ ⦃t : Tree⦄, doc.Placed parent above id t →
      InStretch (id + 1) (id + t.size) ((next id).flatMap f)

/-- **A walk that goes down stays in document order within the stretch of its first node.** -/
theorem walk_staysBelow {next : NodeId → List NodeId} (hnext : doc.GoesDown next) :
    ∀ levels level : Nat, doc.StaysBelow fun id => (walk next levels level id).map Prod.fst
  | 0, level => fun _ _ _ t _ => InStretch.nil.cons (Nat.lt_add_of_pos_right t.size_pos)
  | levels + 1, level => by
    intro parent above id t h
    simp only [walk, List.map_cons, List.map_flatMap]
    exact (hnext (walk_staysBelow hnext levels (level + 1)) h).cons
      (Nat.lt_add_of_pos_right t.size_pos)

/-- From any node of the document of a tree, a walk that goes down visits nodes in document
order. -/
theorem pairwise_walk {t : Tree} {next : NodeId → List NodeId} (hnext : t.document.GoesDown next)
    (hleaf : ∀ id, t.document.children id = [] → next id = []) (levels level : Nat) (id : NodeId) :
    ((walk next levels level id).map Prod.fst).Pairwise (· < ·) := by
  by_cases hid : id < t.document.size
  · obtain ⟨⟨parent, above, u, hplaced⟩, -⟩ := Tree.exists_placed_document hid
    exact (walk_staysBelow hnext levels level hplaced).pairwise
  · have hnil : next id = [] := hleaf id (children_eq_nil hid)
    cases levels <;> simp [walk, hnil]

end Document

end MarkdownTree
