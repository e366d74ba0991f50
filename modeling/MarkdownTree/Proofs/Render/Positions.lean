import MarkdownTree.Proofs.Render.Dispatch
import MarkdownTree.Proofs.Tree.Outline
import MarkdownTree.Render.Layout

/-!
# Where reported nodes stand

A list item or a part of a table is reported when it is dispatched, whatever stands above it. Lists
and tables do not dispatch their own children, so such a report should mean that there is no list or
table around the node. An ordered list takes each of its children for an item, though, and dispatches
what is below it. The children of a list or of a table that stands there as an item are reported as
if they were outside.

* `Document.ShownAsItem` — the nodes that an ordered list shows as its items.
* `Dispatched.shownAsItem_of_isList`, `Dispatched.shownAsItem_of_tableRoot` — there is no other way
  from a list or a table to a node below that is dispatched.
* `misplaced_outside_or_shown_as_item` — a report is right, or it is about a node below such an item;
  and what is directly below such an item is reported.
* `misplaced_below_items` — reports of both kinds that are wrong.
-/

namespace MarkdownTree

namespace NodeKind

/-- Whether a node is a list. -/
def isList : NodeKind → Bool
  | .block .unorderedList | .block (.orderedList _) => true
  | _ => false

/-- Whether a node is a part of a table. -/
def isTablePart : NodeKind → Bool
  | .block .tableHeader | .block .tableBody | .block .tableRow | .block .tableCell => true
  | _ => false

end NodeKind

namespace Document

/-- Whether an ordered list shows a node as one of its items, with a level left below the list. -/
def ShownAsItem (doc : Document) (maxDepth : Nat) (id : NodeId) : Prop :=
  ∃ list start level, id ∈ doc.children list ∧ doc.kind list = .block (.orderedList start) ∧
    doc.Dispatched maxDepth list level ∧ level < maxDepth

variable {doc : Document} {maxDepth : Nat} {id : NodeId} {level : Nat}

/-! ## From a dispatched node upwards -/

/-- Below a list, a node is dispatched only if the list is shown as an item. -/
theorem Dispatched.shownAsItem_of_isList (hdoc : doc.Ordered) (h : doc.Dispatched maxDepth id level)
    (hlevel : level ≤ maxDepth) {parent : NodeId} (hparent : doc.parent? id = some parent)
    (hlist : (doc.kind parent).isList = true) : doc.ShownAsItem maxDepth parent := by
  cases h with
  | root =>
    rw [((hdoc.parent?_eq_none_iff 0).mpr rfl).2] at hparent
    cases hparent
  | child _ _ hkind hmem =>
    obtain rfl := Option.some.inj (((hdoc.mem_children_iff _ _).mp hmem).symm.trans hparent)
    rcases hkind with hkind | hkind | ⟨label, hkind⟩ <;> rw [hkind] at hlist <;> cases hlist
  | inItem _ _ _ _ hkind hmem =>
    obtain rfl := Option.some.inj (((hdoc.mem_children_iff _ _).mp hmem).symm.trans hparent)
    rw [hkind] at hlist
    cases hlist
  | inOrderedList habove _ hkind hitem hmem =>
    obtain rfl := Option.some.inj (((hdoc.mem_children_iff _ _).mp hmem).symm.trans hparent)
    exact ⟨_, _, _, hitem, hkind, habove, hlevel⟩

/-- On the way down to a dispatched node there is a table only where it is shown as an item. -/
theorem Dispatched.shownAsItem_of_tableRoot (hdoc : doc.Ordered)
    (h : doc.Dispatched maxDepth id level) (hlevel : level ≤ maxDepth) {above : NodeId}
    (habove : above ∈ doc.ancestors id) {alignments : List Alignment}
    (htable : doc.kind above = .block (.tableRoot alignments)) :
    doc.ShownAsItem maxDepth above := by
  induction h with
  | root =>
    rw [hdoc.ancestors_root] at habove
    cases habove
  | child _ hle hkind hmem ih =>
    rw [hdoc.ancestors_eq_cons ((hdoc.mem_children_iff _ _).mp hmem)] at habove
    rcases List.mem_cons.mp habove with rfl | habove
    · rcases hkind with hkind | hkind | ⟨label, hkind⟩ <;> rw [hkind] at htable <;> cases htable
    · exact ih hle habove
  | inItem _ hle hkind hitem hkindItem hmem ih =>
    rw [hdoc.ancestors_eq_cons ((hdoc.mem_children_iff _ _).mp hmem),
      hdoc.ancestors_eq_cons ((hdoc.mem_children_iff _ _).mp hitem)] at habove
    rcases List.mem_cons.mp habove with rfl | habove
    · rw [hkindItem] at htable
      cases htable
    rcases List.mem_cons.mp habove with rfl | habove
    · rw [hkind] at htable
      cases htable
    · exact ih hle habove
  | inOrderedList hlist hle hkind hitem hmem ih =>
    rw [hdoc.ancestors_eq_cons ((hdoc.mem_children_iff _ _).mp hmem),
      hdoc.ancestors_eq_cons ((hdoc.mem_children_iff _ _).mp hitem)] at habove
    rcases List.mem_cons.mp habove with rfl | habove
    · exact ⟨_, _, _, hitem, hkind, hlist, hlevel⟩
    rcases List.mem_cons.mp habove with rfl | habove
    · rw [hkind] at htable
      cases htable
    · exact ih hle habove

/-- What is below an item of an ordered list is dispatched within the limit. -/
theorem ShownAsItem.exists_dispatched {item : NodeId} (h : doc.ShownAsItem maxDepth item)
    (hmem : id ∈ doc.children item) : ∃ level, doc.Dispatched maxDepth id level ∧ level ≤ maxDepth := by
  obtain ⟨list, start, level, hitem, hkind, hlist, hlevel⟩ := h
  exact ⟨level + 1, .inOrderedList hlist (Nat.le_of_lt hlevel) hkind hitem hmem, hlevel⟩

/-! ## Reports -/

theorem complaint?_eq_listItem_iff :
    doc.complaint? maxDepth id level = some .listItemOutsideList ↔
      level ≤ maxDepth ∧ doc.kind id = .block .listItem := by
  unfold complaint?
  split
  · next hlt => simp [Nat.not_le_of_lt hlt]
  · next hle =>
    rw [and_iff_right (Nat.le_of_not_lt hle)]
    split <;> simp_all

theorem complaint?_eq_tablePart_iff :
    doc.complaint? maxDepth id level = some .tablePartOutsideTable ↔
      level ≤ maxDepth ∧ (doc.kind id).isTablePart = true := by
  unfold complaint? NodeKind.isTablePart
  split
  · next hlt => simp [Nat.not_le_of_lt hlt]
  · next hle =>
    rw [and_iff_right (Nat.le_of_not_lt hle)]
    split <;> simp_all

/-- What is reported of a node is a complaint about it on a level where it is dispatched. -/
theorem exists_mem_diagnostics_iff {kind : DiagnosticKind} :
    (∃ d ∈ doc.diagnostics maxDepth 0, d.kind = kind ∧ d.node = id) ↔
      ∃ level, doc.Dispatched maxDepth id level ∧ doc.complaint? maxDepth id level = some kind := by
  rw [diagnostics_eq_filterMap rfl]
  constructor
  · rintro ⟨d, hd, rfl, rfl⟩
    obtain ⟨⟨id, level⟩, hmem, hdiagnosis⟩ := List.mem_filterMap.mp hd
    obtain ⟨kind, hkind, rfl⟩ := Option.map_eq_some_iff.mp hdiagnosis
    exact ⟨level, mem_dispatches_iff.mp hmem, hkind⟩
  · rintro ⟨level, hdispatched, hkind⟩
    have hdiagnosis : doc.diagnosis? maxDepth (id, level) =
        some ⟨id, doc.parentType? id, kind⟩ := by
      simp [diagnosis?, hkind]
    exact ⟨_, List.mem_filterMap.mpr ⟨_, mem_dispatches_iff.mpr hdispatched, hdiagnosis⟩, rfl, rfl⟩

end Document

/-- **Reports on positions.** Without a composer, a list item is reported as outside of a list only
if its parent is no list, or a list that an ordered list shows as an item; and a part of a table as
outside of a table only if each table above it is shown as an item by an ordered list. Whatever
stands directly below such a list or table is reported, although it is inside. -/
theorem misplaced_outside_or_shown_as_item {σ : Type} [Sink σ]
    (operations : List Builder.Operation) (maxDepth : Nat) (sink : σ) :
    let doc := (Builder.run operations).document
    let reported (kind : DiagnosticKind) (id : NodeId) : Prop :=
      ∃ d ∈ (Pass.run ⟨doc, .none⟩ maxDepth (some 0) sink).diagnostics, d.kind = kind ∧ d.node = id
    (∀ id, reported .listItemOutsideList id → doc.kind id = .block .listItem ∧
        ∀ parent, doc.parent? id = some parent → (doc.kind parent).isList = true →
          doc.ShownAsItem maxDepth parent) ∧
      (∀ id, reported .tablePartOutsideTable id → (doc.kind id).isTablePart = true ∧
        ∀ above ∈ doc.ancestors id, ∀ alignments,
          doc.kind above = .block (.tableRoot alignments) → doc.ShownAsItem maxDepth above) ∧
      (∀ item id, doc.ShownAsItem maxDepth item → doc.parent? id = some item →
        (doc.kind id = .block .listItem → reported .listItemOutsideList id) ∧
          ((doc.kind id).isTablePart = true → reported .tablePartOutsideTable id)) := by
  intro doc reported
  have hdoc : doc.Ordered := Builder.ordered_run operations
  have hreported : ∀ kind id, reported kind id ↔
      ∃ level, doc.Dispatched maxDepth id level ∧ doc.complaint? maxDepth id level = some kind := by
    intro kind id
    rw [← Document.exists_mem_diagnostics_iff]
    simp [reported, Pass.run_none, Pass.extend]
  refine ⟨?_, ?_, ?_⟩
  · intro id h
    obtain ⟨level, hdispatched, hcomplaint⟩ := (hreported _ id).mp h
    obtain ⟨hlevel, hkind⟩ := Document.complaint?_eq_listItem_iff.mp hcomplaint
    exact ⟨hkind, fun _ hparent hlist => hdispatched.shownAsItem_of_isList hdoc hlevel hparent hlist⟩
  · intro id h
    obtain ⟨level, hdispatched, hcomplaint⟩ := (hreported _ id).mp h
    obtain ⟨hlevel, hkind⟩ := Document.complaint?_eq_tablePart_iff.mp hcomplaint
    exact ⟨hkind, fun _ habove _ htable =>
      hdispatched.shownAsItem_of_tableRoot hdoc hlevel habove htable⟩
  · intro item id hitem hparent
    have hmem : id ∈ doc.children item := (hdoc.mem_children_iff item id).mpr hparent
    obtain ⟨level, hdispatched, hlevel⟩ := hitem.exists_dispatched hmem
    constructor
    · intro hkind
      exact (hreported _ id).mpr
        ⟨level, hdispatched, Document.complaint?_eq_listItem_iff.mpr ⟨hlevel, hkind⟩⟩
    · intro hkind
      exact (hreported _ id).mpr
        ⟨level, hdispatched, Document.complaint?_eq_tablePart_iff.mpr ⟨hlevel, hkind⟩⟩

/-- A list and a table directly in an ordered list: the item of the one and the row of the other are
reported to be outside of a list and of a table. -/
theorem misplaced_below_items :
    let doc := (Builder.run [.openNode (.block (.orderedList 1)),
      .openNode (.block .unorderedList), .leaf (.block .listItem), .close,
      .openNode (.block (.tableRoot [])), .leaf (.block .tableRow)]).document
    (doc.kind 2 = .block .unorderedList ∧ doc.parent? 3 = some 2) ∧
      (doc.kind 4 = .block (.tableRoot []) ∧ doc.parent? 5 = some 4) ∧
      (doc.render .none defaultMaxDepth).diagnostics =
        [⟨3, some .unorderedList, .listItemOutsideList⟩,
          ⟨5, some .tableRoot, .tablePartOutsideTable⟩] := by
  decide

end MarkdownTree
