import Mathlib.Data.List.TakeWhile
import MarkdownTree.Proofs.Tree.Outline
import MarkdownTree.Proofs.Tree.Walk

/-!
# Reading an outline back

As long as no description goes on to another line, the lines of an outline are the entries of the
nodes. An entry tells the depth of its node, from the blanks or from the number behind them, and the
name of its kind, which is the first word of the description. The depths in document order tell the
parents: the parent of a node is the last node before it that is less deep.

* `flatMap_line_injective` — pieces are read back from the text they make line by line.
* `NodeKind.describe_eq` — a description begins with the name of the kind.
* `Outline.entry_injective` — an entry tells depth and name.
* `Tree.depth_le_of_between` — between a node and its parent there is no node less deep.
* `Tree.parent?_eq_of_depths` — the depths tell the parents.
* `shape_of_dump` — so an outline tells the shape of the tree.
-/

namespace MarkdownTree

/-! ## Lines -/

theorem takeWhile_append_cons {p : Char → Bool} {s : List Char} (hs : ∀ c ∈ s, p c = true)
    {c : Char} (hc : p c = false) (rest : List Char) : (s ++ c :: rest).takeWhile p = s := by
  rw [List.takeWhile_append_of_pos hs, List.takeWhile_cons_of_neg (Bool.eq_false_iff.mp hc),
    List.append_nil]

/-- What stands in front of the first character that does not satisfy something, and what stands
behind it. -/
theorem append_cons_inj {p : Char → Bool} {s s' : List Char} (hs : ∀ c ∈ s, p c = true)
    (hs' : ∀ c ∈ s', p c = true) {c c' : Char} (hc : p c = false) (hc' : p c' = false)
    {rest rest' : List Char} (h : s ++ c :: rest = s' ++ c' :: rest') :
    s = s' ∧ c :: rest = c' :: rest' := by
  have hfront : s = s' := by
    rw [← takeWhile_append_cons hs hc rest, h, takeWhile_append_cons hs' hc' rest']
  refine ⟨hfront, ?_⟩
  rw [hfront] at h
  exact List.append_cancel_left h

/-- **Pieces without line feeds are read back** from the text that they make line by line. -/
theorem flatMap_line_injective : ∀ {pieces pieces' : List (List Char)},
    (∀ p ∈ pieces, '\n' ∉ p) → (∀ p ∈ pieces', '\n' ∉ p) →
      pieces.flatMap (· ++ ['\n']) = pieces'.flatMap (· ++ ['\n']) → pieces = pieces'
  | [], [], _, _, _ => rfl
  | [], p' :: pieces', _, _, h => by simp at h
  | p :: pieces, [], _, _, h => by simp at h
  | p :: pieces, p' :: pieces', hp, hp', h => by
    rw [List.forall_mem_cons] at hp hp'
    have hne : ∀ {q : List Char}, '\n' ∉ q → ∀ c ∈ q, (c != '\n') = true := by
      intro q hq c hc
      exact bne_iff_ne.mpr fun he => hq (he ▸ hc)
    simp only [List.flatMap_cons, List.append_assoc, List.singleton_append] at h
    obtain ⟨hfirst, hrest⟩ := append_cons_inj (hne hp.1) (hne hp'.1) rfl rfl h
    rw [hfirst, flatMap_line_injective hp.2 hp'.2 (List.cons.inj hrest).2]

/-! ## Descriptions -/

/-- Whether a character may stand in the name of a kind. -/
def isNameChar (c : Char) : Bool :=
  c.isLower || c == '_'

/-- A name is a word: it is not empty, and it has letters of lower case and bars only. -/
def isWord (s : List Char) : Bool :=
  !s.isEmpty && s.all isNameChar

theorem BlockType.isWord_name (t : BlockType) : isWord t.name.toList = true := by
  cases t <;> decide

theorem Inline.isWord_name (i : Inline) : isWord i.name.toList = true := by
  cases i <;> rw [name] <;> decide

namespace NodeKind

theorem isWord_name (k : NodeKind) : isWord k.name.toList = true := by
  cases k with
  | block b => exact b.type.isWord_name
  | inline i => exact i.isWord_name

theorem isNameChar_of_mem_name (k : NodeKind) : ∀ c ∈ k.name.toList, isNameChar c = true := by
  have h := k.isWord_name
  rw [isWord, Bool.and_eq_true] at h
  exact List.all_eq_true.mp h.2

/-- **A description begins with the name of the kind.** Behind it there is nothing or a blank. -/
theorem describe_eq (k : NodeKind) :
    k.describe = k.name.toList ∨ ∃ s, k.describe = k.name.toList ++ ' ' :: s := by
  unfold describe name
  cases k with
  | block b =>
    cases b with
    | paragraph fadeOut => cases fadeOut <;> simp [Block.type, BlockType.name]
    | _ => simp [Block.type, BlockType.name]
  | inline i => cases i <;> simp [Inline.name]

/-- The name is the first word of a description. -/
theorem takeWhile_describe (k : NodeKind) : k.describe.takeWhile isNameChar = k.name.toList := by
  rcases k.describe_eq with hdescribe | ⟨s, hdescribe⟩
  · rw [hdescribe, List.takeWhile_eq_self_iff]
    exact k.isNameChar_of_mem_name
  · rw [hdescribe, takeWhile_append_cons k.isNameChar_of_mem_name rfl]

theorem name_eq_of_describe_eq {k k' : NodeKind} (h : k.describe = k'.describe) :
    k.name = k'.name := by
  apply String.toList_injective
  rw [← takeWhile_describe, h, takeWhile_describe]

/-- A description begins with a character of the name. -/
theorem exists_describe_eq_cons (k : NodeKind) :
    ∃ c s, k.describe = c :: s ∧ isNameChar c = true := by
  have hword := k.isWord_name
  have hmem := k.isNameChar_of_mem_name
  cases hname : k.name.toList with
  | nil =>
    rw [hname] at hword
    cases hword
  | cons c s =>
    rw [hname] at hmem
    have hc : isNameChar c = true := hmem c List.mem_cons_self
    rcases k.describe_eq with hdescribe | ⟨rest, hdescribe⟩
    · exact ⟨c, s, by rw [hdescribe, hname], hc⟩
    · exact ⟨c, s ++ ' ' :: rest, by rw [hdescribe, hname, List.cons_append], hc⟩

end NodeKind

/-! ## Entries -/

/-- A number is read back from its digits. -/
theorem toString_nat_injective {m n : Nat} (h : (toString m).toList = (toString n).toList) :
    m = n := by
  rw [Nat.toString_eq_ofList_toDigits, Nat.toString_eq_ofList_toDigits, String.toList_ofList,
    String.toList_ofList] at h
  rw [← Nat.ofDigitChars_ten_toDigits (n := m), h, Nat.ofDigitChars_ten_toDigits]

namespace Outline

/-- What stands behind the blanks of an entry. -/
def tagged (depth : Nat) (kind : NodeKind) : List Char :=
  if maxIndent < depth then '(' :: ((toString depth).toList ++ ')' :: ' ' :: kind.describe)
  else kind.describe

variable {depth depth' : Nat} {k k' : NodeKind}

theorem entry_eq (depth : Nat) (k : NodeKind) :
    entry depth k = List.replicate (2 * min depth maxIndent) ' ' ++ tagged depth k := by
  rw [entry, line, List.dropLast_concat, tagged]
  split <;> simp

theorem exists_tagged_eq_cons (depth : Nat) (k : NodeKind) :
    ∃ c s, tagged depth k = c :: s ∧ c ≠ ' ' := by
  unfold tagged
  split
  · exact ⟨_, _, rfl, by decide⟩
  · obtain ⟨c, s, hdescribe, hc⟩ := k.exists_describe_eq_cons
    refine ⟨c, s, hdescribe, ?_⟩
    rintro rfl
    cases hc

/-- What stands behind the blanks tells a depth that is not indented any more. -/
theorem tagged_injective (h : tagged depth k = tagged depth' k') :
    k.name = k'.name ∧ (maxIndent < depth ∨ maxIndent < depth' → depth = depth') := by
  have hplain : ∀ {k : NodeKind} {s : List Char}, '(' :: s ≠ k.describe := by
    intro k s h
    obtain ⟨c, s', hdescribe, hc⟩ := k.exists_describe_eq_cons
    rw [hdescribe] at h
    obtain ⟨rfl, -⟩ := List.cons.inj h
    cases hc
  unfold tagged at h
  split at h <;> split at h
  · have hdigits : ∀ n : Nat, ∀ c ∈ (toString n).toList, c.isDigit = true :=
      fun _ _ => Text.isDigit_of_mem_toString
    obtain ⟨hnumber, hrest⟩ :=
      append_cons_inj (hdigits depth) (hdigits depth') rfl rfl (List.cons.inj h).2
    have hdescribe : k.describe = k'.describe := by simpa using hrest
    exact ⟨NodeKind.name_eq_of_describe_eq hdescribe,
      fun _ => toString_nat_injective hnumber⟩
  · exact absurd h hplain
  · exact absurd h.symm hplain
  · next hd hd' =>
    exact ⟨NodeKind.name_eq_of_describe_eq h, fun hlt => absurd hlt (not_or.mpr ⟨hd, hd'⟩)⟩

/-- **An entry tells the depth of its node and the name of its kind.** -/
theorem entry_injective (h : entry depth k = entry depth' k') :
    depth = depth' ∧ k.name = k'.name := by
  rw [entry_eq, entry_eq] at h
  obtain ⟨c, s, htagged, hc⟩ := exists_tagged_eq_cons depth k
  obtain ⟨c', s', htagged', hc'⟩ := exists_tagged_eq_cons depth' k'
  have hblank : ∀ n, ∀ c ∈ List.replicate n ' ', (c == ' ') = true := by
    intro n c hmem
    exact beq_iff_eq.mpr (List.eq_of_mem_replicate hmem)
  rw [htagged, htagged'] at h
  obtain ⟨hblanks, hrest⟩ := append_cons_inj (hblank _) (hblank _) (beq_eq_false_iff_ne.mpr hc)
    (beq_eq_false_iff_ne.mpr hc') h
  rw [← htagged, ← htagged'] at hrest
  obtain ⟨hname, hdeep⟩ := tagged_injective hrest
  have hlength : 2 * min depth maxIndent = 2 * min depth' maxIndent := by
    have := congrArg List.length hblanks
    rwa [List.length_replicate, List.length_replicate] at this
  refine ⟨?_, hname⟩
  by_cases hcase : maxIndent < depth ∨ maxIndent < depth'
  · exact hdeep hcase
  · omega

end Outline

/-! ## Depths -/

namespace Document

variable {doc doc' : Document}

/-- The number of nodes above a node. -/
def depth (doc : Document) (id : NodeId) : Nat :=
  (doc.ancestors id).length

theorem Ordered.depth_eq (hdoc : doc.Ordered) {id parent : NodeId}
    (h : doc.parent? id = some parent) : doc.depth id = doc.depth parent + 1 := by
  rw [depth, hdoc.ancestors_eq_cons h, List.length_cons]
  rfl

-- By recursion on the tree: what is deeper than the head of a tree is what lies behind it in its
-- stretch.
mutual

theorem Placed.depth_lt (hdoc : doc.Ordered) {c : Nat} : ∀ {t : Tree}
    {parent next : Option NodeId} {id : Nat}, doc.Placed parent next id t → id < c →
      c < id + t.size → doc.depth id < doc.depth c
  | .node k cs, parent, next, id, h, hlt, hc => by
    rw [Tree.size] at hc
    exact PlacedAll.depth_lt hdoc h.2 hlt (by omega)

theorem PlacedAll.depth_lt (hdoc : doc.Ordered) {c : Nat} : ∀ {ts : List Tree} {parent : NodeId}
    {id : Nat}, doc.PlacedAll (some parent) id ts → id ≤ c → c < id + Tree.sizes ts →
      doc.depth parent < doc.depth c
  | [], _, id, _, hle, hc => by
    rw [Tree.sizes] at hc
    omega
  | t :: ts, parent, id, h, hle, hc => by
    rw [Tree.sizes] at hc
    have hself : doc.depth id = doc.depth parent + 1 := hdoc.depth_eq h.1.parent?_eq
    by_cases hbehind : id + t.size ≤ c
    · exact PlacedAll.depth_lt hdoc h.2 hbehind (by omega)
    · rcases Nat.eq_or_lt_of_le hle with rfl | hlt
      · omega
      · have hbelow := Placed.depth_lt hdoc h.1 hlt (by omega)
        omega

end

end Document

namespace Tree

open Document

variable {t u : Tree} {id parent parent' : NodeId}

/-- **Between a node and its parent there is no node less deep.** -/
theorem depth_le_of_between (h : t.document.parent? id = some parent) {c : NodeId}
    (hlt : parent < c) (hc : c < id) : t.document.depth id ≤ t.document.depth c := by
  have hdoc := t.ordered_document
  have hchild : id ∈ t.document.children parent := (hdoc.mem_children_iff parent id).mpr h
  obtain ⟨_, _, v, hplaced⟩ := exists_placed_of_mem_children hchild
  have hstretch := hplaced.flatMap_children_inStretch (.singleton t.document)
  rw [List.flatMap_singleton'] at hstretch
  have hid := (hstretch.bounds id hchild).2
  have hdeeper := hplaced.depth_lt hdoc hlt (Nat.lt_trans hc hid)
  have hself := hdoc.depth_eq h
  omega

/-- A node that is a parent by the same depths is not behind the parent. -/
theorem parent_le_of_depths
    (hdepth : ∀ id < t.document.size, t.document.depth id = u.document.depth id)
    (h : t.document.parent? id = some parent) (h' : u.document.parent? id = some parent') :
    parent' ≤ parent := by
  by_contra hlt
  have hid := lt_size_of_parent? h
  have hbefore := u.ordered_document.parent_lt id parent' h'
  have hbetween := depth_le_of_between h (Nat.lt_of_not_le hlt) hbefore
  have hself := u.ordered_document.depth_eq h'
  have hnode := hdepth id hid
  have hparent := hdepth parent' (Nat.lt_trans hbefore hid)
  omega

/-- **The depths in document order tell the parents.** -/
theorem parent?_eq_of_depths (hsize : t.document.size = u.document.size)
    (hdepth : ∀ id < t.document.size, t.document.depth id = u.document.depth id) (id : NodeId) :
    t.document.parent? id = u.document.parent? id := by
  have hnone : ∀ {v w : Tree}, v.document.size = w.document.size →
      v.document.parent? id = none → w.document.parent? id = none := by
    intro v w hsize hv
    by_cases hid : id < v.document.size
    · have hzero := (v.ordered_document.parent?_eq_none_iff id).mp ⟨hid, hv⟩
      exact ((w.ordered_document.parent?_eq_none_iff id).mpr hzero).2
    · rw [hsize] at hid
      rw [parent?, get?_eq_none hid]
      rfl
  cases h : t.document.parent? id with
  | none => exact (hnone hsize h).symm
  | some parent =>
    cases h' : u.document.parent? id with
    | none =>
      rw [hnone hsize.symm h'] at h
      cases h
    | some parent' =>
      have hdepth' : ∀ id < u.document.size, u.document.depth id = t.document.depth id :=
        fun id hid => (hdepth id (hsize ▸ hid)).symm
      have hle := parent_le_of_depths hdepth h h'
      have hge := parent_le_of_depths hdepth' h' h
      rw [Nat.le_antisymm hge hle]

end Tree

/-! ## The shape of a tree -/

namespace Document

/-- The entries of the nodes in an outline. -/
def entries (doc : Document) : List (List Char) :=
  doc.iter.map fun id => Outline.entry (doc.depth id) (doc.kind id)

end Document

theorem Builder.outline_eq_flatMap_entries (operations : List Builder.Operation) :
    let doc := (Builder.run operations).document
    doc.outline = doc.entries.flatMap (· ++ ['\n']) := by
  intro doc
  rw [Builder.outline_run operations, Document.entries, List.flatMap_map]
  simp only [Outline.line_eq_entry]
  rfl

theorem Document.newline_notMem_entries {doc : Document}
    (h : ∀ id ∈ doc.iter, ∀ s ∈ (doc.kind id).unquoted, '\n' ∉ s.toList) :
    ∀ entry ∈ doc.entries, '\n' ∉ entry := by
  intro entry hentry
  obtain ⟨id, hid, rfl⟩ := List.mem_map.mp hentry
  rw [← List.count_eq_zero, Outline.count_newline_entry, List.count_eq_zero]
  intro hmem
  obtain ⟨s, hs, hmem⟩ := List.mem_flatMap.mp hmem
  exact h id hid s hs hmem

/-- **An outline tells the shape of the tree.** If no text that is shown as it is has a line feed in
either of two documents, and their outlines are equal, then they have as many nodes, and every node
has the same parent and a kind of the same name in both, however deep it is. -/
theorem shape_of_dump (operations operations' : List Builder.Operation) :
    let doc := (Builder.run operations).document
    let doc' := (Builder.run operations').document
    (∀ id ∈ doc.iter, ∀ s ∈ (doc.kind id).unquoted, '\n' ∉ s.toList) →
    (∀ id ∈ doc'.iter, ∀ s ∈ (doc'.kind id).unquoted, '\n' ∉ s.toList) →
    doc.dump = doc'.dump →
    doc.size = doc'.size ∧
      ∀ id, doc.parent? id = doc'.parent? id ∧ (doc.kind id).name = (doc'.kind id).name := by
  intro doc doc' hlines hlines' hdump
  have houtline : doc.outline = doc'.outline := String.ofList_injective hdump
  have hentries : doc.entries = doc'.entries := by
    rw [Builder.outline_eq_flatMap_entries, Builder.outline_eq_flatMap_entries] at houtline
    exact flatMap_line_injective (Document.newline_notMem_entries hlines)
      (Document.newline_notMem_entries hlines') houtline
  have hsize : doc.size = doc'.size := by
    have hlength := congrArg List.length hentries
    simpa [Document.entries, Document.iter] using hlength
  have hnode : ∀ id < doc.size,
      doc.depth id = doc'.depth id ∧ (doc.kind id).name = (doc'.kind id).name := by
    intro id hid
    rw [Document.entries, Document.entries, Document.iter, Document.iter, ← hsize,
      List.map_inj_left] at hentries
    exact Outline.entry_injective (hentries id (List.mem_range.mpr hid))
  refine ⟨hsize, fun id => ⟨?_, ?_⟩⟩
  · have htree : doc = doc.tree.document := Builder.document_run operations
    have htree' : doc' = doc'.tree.document := Builder.document_run operations'
    have hdepth : ∀ id < doc.size, doc.depth id = doc'.depth id := fun id hid => (hnode id hid).1
    rw [htree, htree'] at hsize hdepth ⊢
    exact Tree.parent?_eq_of_depths hsize hdepth id
  · by_cases hid : id < doc.size
    · exact (hnode id hid).2
    · have hid' : ¬ id < doc'.size := hsize ▸ hid
      rw [Document.kind, Document.kind, Document.get?_eq_none hid, Document.get?_eq_none hid']

/-- A table and a link that are more than 32 levels deep. Neither the alignments of the table nor the
title of the link are shown. -/
theorem shape_of_dump_beyond_indent :
    let deep (below : List Builder.Operation) : Document :=
      (Builder.run (List.replicate 33 (Builder.Operation.openNode (.block .blockQuote)) ++
        below)).document
    let doc := deep [.openNode (.block (.tableRoot [.left])), .openNode (.block .tableRow), .close,
      .close, .leaf (.inline (.link "/u" "t"))]
    let doc' := deep [.openNode (.block (.tableRoot [])), .openNode (.block .tableRow), .close,
      .close, .leaf (.inline (.link "/u" ""))]
    (∀ id ∈ doc.iter, ∀ s ∈ (doc.kind id).unquoted, '\n' ∉ s.toList) ∧
      (∀ id ∈ doc'.iter, ∀ s ∈ (doc'.kind id).unquoted, '\n' ∉ s.toList) ∧
      doc.dump = doc'.dump ∧ doc.depth 35 = 35 ∧ doc ≠ doc' ∧ doc.size = doc'.size ∧
      ∀ id, doc.parent? id = doc'.parent? id ∧ (doc.kind id).name = (doc'.kind id).name := by
  intro deep doc doc'
  have hlines : ∀ id ∈ doc.iter, ∀ s ∈ (doc.kind id).unquoted, '\n' ∉ s.toList := by
    decide +kernel
  have hlines' : ∀ id ∈ doc'.iter, ∀ s ∈ (doc'.kind id).unquoted, '\n' ∉ s.toList := by
    decide +kernel
  have houtline : doc.outline = doc'.outline := by decide +kernel
  have hdump : doc.dump = doc'.dump := congrArg String.ofList houtline
  exact ⟨hlines, hlines', hdump, by decide +kernel, by decide +kernel,
    shape_of_dump _ _ hlines hlines' hdump⟩

end MarkdownTree
