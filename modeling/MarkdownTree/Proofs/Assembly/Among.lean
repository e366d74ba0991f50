import MarkdownTree.Proofs.Assembly.Interleaved

/-!
# Definitions among trees

The children of a container with definitions, and how definitions are divided among sibling trees:
in front of a tree, inside of it and behind it.

* `Part.arrange_pieces_append`, `Part.arrange_held` — the children of a container from the front.
* `EventTree.Within`, `EventTree.Among` — definitions that lie inside of a tree, or among siblings.
* `EventTree.Among.split` — the division in a container that takes no definitions.
* `EventTree.Among.waits` — definitions in a run that is open wait for what is behind a tree.
-/

namespace MarkdownTree

/-! ## Parts without definitions -/

namespace Part

theorem arrange_map_piece : ∀ (ps : List Piece) (run : List Tree),
    arrange run [] (ps.map .piece) = Piece.wrapRuns run ps
  | [], run => List.append_nil _
  | .inline t :: ps, run => arrange_map_piece ps (run ++ [t])
  | .block t :: ps, run => by
    rw [List.map_cons, arrange, arrange_map_piece ps, List.append_nil, Piece.wrapRuns]
  | .cut :: ps, run => by
    rw [List.map_cons, arrange, arrange_map_piece ps, List.append_nil, Piece.wrapRuns]

theorem pieces_append (ps qs : List Part) : pieces (ps ++ qs) = pieces ps ++ pieces qs :=
  List.filterMap_append

theorem pieces_map_piece (ps : List Piece) : pieces (ps.map .piece) = ps := by
  induction ps with
  | nil => rfl
  | cons p ps ih => exact congrArg (p :: ·) ih

theorem fill_map_piece (kind : NodeKind) (ps : List Piece) :
    fill kind (ps.map .piece) = .fill kind ps := by
  rw [fill, pieces_map_piece, arrange_map_piece, Tree.fill]
  cases haccepts : kind.acceptsInline with
  | true => simp [NodeKind.acceptsDefinitions_of_acceptsInline haccepts]
  | false => simp

end Part

namespace EventTree

mutual

theorem piecesWith_nil : ∀ t : EventTree, piecesWith [] t = t.pieces
  | leaf e _ => by rw [piecesWith, pieces]
  | element tag _ _ content => by
    rw [piecesWith, pieces, parts_nil content]
    cases tag.role <;> simp only [Part.fill_map_piece, Part.pieces_map_piece]

theorem parts_nil : ∀ ts : List EventTree, parts [] ts = (piecesAll ts).map .piece
  | [] => rfl
  | t :: ts => by
    simp only [parts, Definition.upTo_nil, Definition.onwards_nil, List.map_nil, List.nil_append]
    rw [piecesWith_nil t, parts_nil ts, piecesAll, List.map_append]

end

end EventTree

/-! ## The children of a container -/

namespace Content

theorem foldl_feed_inline (us : List Tree) (c : Content) :
    (us.map Piece.inline).foldl (feed false) c = ⟨c.done, c.run ++ us⟩ := by
  induction us generalizing c with
  | nil => simp
  | cons u us ih =>
    rw [List.map_cons, List.foldl_cons, ih]
    simp [feed]

theorem foldl_feed_cut : ∀ {ps : List Piece}, ps.all Piece.isCut = true → ∀ done : List Tree,
    ps.foldl (feed false) ⟨done, []⟩ = ⟨done, []⟩
  | [], _, _ => rfl
  | .cut :: ps, h, done => by
    have hps : ps.all Piece.isCut = true := h
    rw [List.foldl_cons, feed, trees_of_run_nil, foldl_feed_cut hps]

end Content

namespace Part

theorem arrange_definitions : ∀ (ds : List Definition) (run held : List Tree),
    arrange run held (ds.map .definition) = Piece.wrap run ++ held ++ ds.map Definition.tree
  | [], run, held => (List.append_nil _).symm
  | d :: ds, [], held => by
    have ih := arrange_definitions ds [] []
    rw [List.map_cons, arrange, ih]
    rfl
  | d :: ds, t :: run, held => by
    rw [List.map_cons, arrange, arrange_definitions ds]
    simp

/-- Outside of a run a definition stands where it is. -/
theorem arrange_definitions_append (ps : List Part) : ∀ ds : List Definition,
    arrange [] [] (ds.map .definition ++ ps) = ds.map Definition.tree ++ arrange [] [] ps
  | [] => rfl
  | d :: ds => by
    rw [List.map_cons, List.cons_append, arrange, arrange_definitions_append ps ds]
    rfl

/-- Inside of a run definitions are held until its paragraph is complete. -/
theorem arrange_definitions_of_run {run : List Tree} (hrun : run ≠ []) (ps : List Part) :
    ∀ (ds : List Definition) (held : List Tree),
      arrange run held (ds.map .definition ++ ps) = arrange run (held ++ ds.map Definition.tree) ps
  | [], held => by rw [List.map_nil, List.map_nil, List.append_nil, List.nil_append]
  | d :: ds, held => by
    obtain ⟨t, ts, rfl⟩ := List.exists_cons_of_ne_nil hrun
    rw [List.map_cons, List.cons_append, arrange, arrange_definitions_of_run hrun ps ds,
      List.append_assoc]
    rfl

/-- Pieces are fed to the inside of a container. -/
theorem arrange_pieces_append (qs : List Part) : ∀ (ps : List Piece) (c : Content),
    c.done ++ arrange c.run [] (ps.map .piece ++ qs) =
      (ps.foldl (Content.feed false) c).done ++
        arrange (ps.foldl (Content.feed false) c).run [] qs
  | [], c => rfl
  | .inline t :: ps, c => by
    have ih := arrange_pieces_append qs ps (c.feed false (.inline t))
    rw [List.foldl_cons, ← ih]
    rfl
  | .block t :: ps, c => by
    have ih := arrange_pieces_append qs ps (c.feed false (.block t))
    rw [List.foldl_cons, ← ih]
    simp [arrange, Content.feed, Content.trees]
  | .cut :: ps, c => by
    have ih := arrange_pieces_append qs ps (c.feed false .cut)
    rw [List.foldl_cons, ← ih]
    simp [arrange, Content.feed, Content.trees]

theorem arrange_inline (qs : List Part) : ∀ us run held : List Tree,
    arrange run held ((us.map Piece.inline).map .piece ++ qs) = arrange (run ++ us) held qs
  | [], run, held => by rw [List.append_nil]; rfl
  | u :: us, run, held => by
    have ih := arrange_inline qs us (run ++ [u]) held
    rw [List.append_assoc] at ih
    exact ih

/-- Outside of a run nothing ends. -/
theorem arrange_cut (qs : List Part) : ∀ {ps : List Piece}, ps.all Piece.isCut = true →
    arrange [] [] (ps.map .piece ++ qs) = arrange [] [] qs
  | [], _ => rfl
  | .cut :: ps, h => by
    have hps : ps.all Piece.isCut = true := h
    rw [List.map_cons, List.cons_append, arrange, arrange_cut qs hps]
    rfl

/-- Definitions in a run stay at its end, where the run goes on and where it ends with nothing
behind it. -/
theorem arrange_held {ps : List Piece}
    (hps : (∃ us : List Tree, ps = us.map .inline) ∨ ps.all Piece.isCut = true) {c : Content}
    (hrun : c.run ≠ []) (ds : List Definition) (qs : List Part) :
    (ps.foldl (Content.feed false) c).done ++
        arrange (ps.foldl (Content.feed false) c).run [] (ds.map .definition ++ qs) =
      c.done ++ arrange c.run [] (ds.map .definition ++ (ps.map .piece ++ qs)) := by
  rcases hps with ⟨us, rfl⟩ | hcut
  · have hrun' : c.run ++ us ≠ [] := by simp [hrun]
    rw [Content.foldl_feed_inline, arrange_definitions_of_run hrun',
      arrange_definitions_of_run hrun, arrange_inline]
  · match ps, hcut with
    | [], _ => rfl
    | .cut :: ps, hcut =>
      have hps : ps.all Piece.isCut = true := hcut
      rw [List.foldl_cons, Content.feed, Content.foldl_feed_cut hps,
        arrange_definitions_of_run hrun]
      simp [arrange, arrange_cut qs hps, arrange_definitions_append, Content.trees]

end Part

namespace EventTree

open Definition

/-- A tree that leaves a run open adds inline trees only. -/
theorem pieces_of_leavesRun {t : EventTree} (h : t.leavesRun true = true) :
    ∃ us : List Tree, t.pieces = us.map .inline := by
  cases t with
  | leaf e range =>
    rw [leavesRun] at h
    rw [pieces]
    cases e with
    | start tag => cases h
    | stop => cases h
    | rule => cases h
    | _ => exact ⟨[_], rfl⟩
  | element tag opening closing content =>
    rw [leavesRun] at h
    rw [pieces]
    cases hrole : tag.role with
    | inline i => exact ⟨[_], rfl⟩
    | metadata => exact ⟨[], rfl⟩
    | _ => simp [hrole] at h

/-! ## Definitions inside of a tree and among siblings -/

/-- Definitions that lie inside of a tree. -/
structure Within (t : EventTree) (ds : List Definition) : Prop where
  inOrder : InOrder ds
  first_le : ∀ d ∈ ds, t.first ≤ d.first
  lt_reach : ∀ d ∈ ds, d.first < t.reach
  houses : t.Houses ds
  unobstructed : t.Unobstructed ds

/-- Definitions that lie among sibling trees or inside of them. -/
structure Among (accepts run : Bool) (ts : List EventTree) (ds : List Definition) : Prop where
  inOrder : InOrder ds
  houses : HousesAll accepts ds ts
  unobstructed : UnobstructedAll run ds ts

theorem Within.content {tag : Tag} {opening closing : SourceRange} {content : List EventTree}
    {ds : List Definition} (h : (element tag opening closing content).Within ds) :
    Among tag.role.acceptsDefinitions false content ds :=
  ⟨h.inOrder, h.houses, h.unobstructed⟩

namespace Among

variable {accepts run : Bool} {t : EventTree} {ts : List EventTree} {ds : List Definition}

theorem before (h : Among accepts run (t :: ts) ds) : upTo t.first ds = [] ∨ accepts = true :=
  h.houses.1

theorem head (h : Among accepts run (t :: ts) ds) : t.Within (upTo t.reach (onwards t.first ds)) where
  inOrder := (h.inOrder.onwards t.first).upTo t.reach
  first_le _ hd := le_of_mem_onwards h.inOrder ((List.takeWhile_sublist _).subset hd)
  lt_reach _ hd := lt_of_mem_upTo hd
  houses := h.houses.2.1
  unobstructed := h.unobstructed.2.1

theorem tail (h : Among accepts run (t :: ts) ds) :
    Among accepts (t.leavesRun run) ts (onwards t.reach (onwards t.first ds)) where
  inOrder := (h.inOrder.onwards t.first).onwards t.reach
  houses := h.houses.2.2
  unobstructed := h.unobstructed.2.2

theorem eq_nil (h : Among false run [] ds) : ds = [] :=
  h.houses.resolve_right (by simp)

/-- In a container that takes no definitions they lie inside of its first tree or behind it. -/
theorem split (h : Among false run (t :: ts) ds) :
    t.Within (upTo t.reach ds) ∧ Among false (t.leavesRun run) ts (onwards t.reach ds) ∧
      Part.pieces (parts ds (t :: ts)) =
        piecesWith (upTo t.reach ds) t ++ Part.pieces (parts (onwards t.reach ds) ts) := by
  have hnone : upTo t.first ds = [] := h.before.resolve_right (by simp)
  have honwards : onwards t.first ds = ds := by
    have hsplit := upTo_append_onwards t.first ds
    rwa [hnone, List.nil_append] at hsplit
  have hhead := h.head
  have htail := h.tail
  rw [honwards] at hhead htail
  refine ⟨hhead, htail, ?_⟩
  simp only [parts, hnone, honwards, List.map_nil, List.nil_append, Part.pieces_append,
    Part.pieces_map_piece]

/-- What is not inside of the first tree starts behind it. -/
theorem reach_le (h : Among accepts run (t :: ts) ds) {low high : Nat}
    (hranged : RangedAll low high (t :: ts)) {rest : List Definition}
    (hrest : ∀ d ∈ rest, high ≤ d.first) : ∀ d ∈ onwards t.reach ds ++ rest, t.reach ≤ d.first :=
  List.forall_mem_append.mpr ⟨fun _ hd => le_of_mem_onwards h.inOrder hd, fun d hd =>
    Nat.le_trans hranged.2.1.reach_le (Nat.le_trans hranged.2.2.le (hrest d hd))⟩

end Among

mutual

theorem eq_nil_of_refuses : ∀ {t : EventTree} {ds : List Definition}, t.refuses = true →
    t.Houses ds → ds = []
  | leaf _ _, _, _, h => h
  | element tag _ _ content, _, hrefuses, h => by
    rw [refuses, Bool.and_eq_true, Bool.not_eq_true'] at hrefuses
    rw [Houses, hrefuses.1] at h
    exact eq_nil_of_refusesAll hrefuses.2 h

theorem eq_nil_of_refusesAll : ∀ {ts : List EventTree} {ds : List Definition},
    refusesAll ts = true → HousesAll false ds ts → ds = []
  | [], _, _, h => h.resolve_right (by simp)
  | t :: ts, ds, hrefuses, ⟨hbefore, ht, hts⟩ => by
    rw [refusesAll, Bool.and_eq_true] at hrefuses
    rw [← upTo_append_onwards t.first ds, ← upTo_append_onwards t.reach (onwards t.first ds),
      hbefore.resolve_right (by simp), eq_nil_of_refuses hrefuses.1 ht,
      eq_nil_of_refusesAll hrefuses.2 hts]
    rfl

end

/-- Leaves refuse definitions. -/
theorem refusesAll_of_leaves {f : EventTree → Bool} (hf : ∀ tag opening closing content,
    f (element tag opening closing content) = false) : ∀ {ts : List EventTree},
    ts.all f = true → refusesAll ts = true
  | [], _ => rfl
  | leaf _ _ :: ts, h => by
    rw [List.all_cons, Bool.and_eq_true] at h
    rw [refusesAll, refuses, Bool.true_and]
    exact refusesAll_of_leaves hf h.2
  | element tag opening closing content :: ts, h => by
    rw [List.all_cons, hf] at h
    cases h

section

variable {low high : Nat} {ts : List EventTree} {ds held : List Definition}

/-- Definitions in front of a forest come first in it. -/
theorem parts_append_of_lt (hranged : RangedAll low high ts) (hheld : ∀ d ∈ held, d.first < low)
    (ds : List Definition) : parts (held ++ ds) ts = held.map .definition ++ parts ds ts := by
  cases ts with
  | nil => simp [parts]
  | cons t ts =>
    have hlt : ∀ d ∈ held, d.first < t.first := fun d hd => Nat.lt_of_lt_of_le (hheld d hd) hranged.1
    simp [parts, upTo_append_of_lt hlt, onwards_append_of_lt hlt]

/-- Definitions in front of a forest lie among its trees as well, if a run that is open lets them
out. -/
theorem Among.append_of_lt {run : Bool} (h : Among true run ts ds)
    (hranged : RangedAll low high ts) (hheld : ∀ d ∈ held, d.first < low)
    (horder : InOrder (held ++ ds)) (hrun : run = true → letsOut ts = true) :
    Among true run ts (held ++ ds) := by
  refine ⟨horder, ?_, ?_⟩
  · cases ts with
    | nil => exact .inr rfl
    | cons t ts =>
      have hlt : ∀ d ∈ held, d.first < t.first :=
        fun d hd => Nat.lt_of_lt_of_le (hheld d hd) hranged.1
      refine ⟨.inr rfl, ?_⟩
      rw [onwards_append_of_lt hlt]
      exact h.houses.2
  · cases ts with
    | nil => trivial
    | cons t ts =>
      have hlt : ∀ d ∈ held, d.first < t.first :=
        fun d hd => Nat.lt_of_lt_of_le (hheld d hd) hranged.1
      refine ⟨fun hopen => .inr (hrun hopen), ?_⟩
      rw [onwards_append_of_lt hlt]
      exact h.unobstructed.2

/-- In front of a tree, definitions in a run that is open wait for what is behind the tree. -/
theorem Among.waits {t : EventTree} (h : Among true true (t :: ts) ds)
    (hranged : RangedAll low high (t :: ts)) (hds : upTo t.first ds ≠ []) :
    t.refuses = true ∧ t.Within [] ∧ (∀ d ∈ onwards t.first ds, t.reach ≤ d.first) ∧
      Among true (t.leavesRun true) ts ds ∧
      ∀ {c : Content}, c.run ≠ [] →
        (t.pieces.foldl (Content.feed false) c).done ++
            Part.arrange (t.pieces.foldl (Content.feed false) c).run [] (parts ds ts) =
          c.done ++ Part.arrange c.run [] (parts ds (t :: ts)) := by
  obtain ⟨-, ht, hts⟩ := hranged
  have hlets : letsOut (t :: ts) = true := (h.unobstructed.1 rfl).resolve_left hds
  rw [letsOut, Bool.and_eq_true] at hlets
  obtain ⟨hrefuses, hlets⟩ := hlets
  -- nothing is inside of the tree, so all the other definitions are behind it
  have hwithin := h.head
  have htail := h.tail
  have hnone := eq_nil_of_refuses hrefuses hwithin.houses
  have hbehind : onwards t.reach (onwards t.first ds) = onwards t.first ds := by
    have hsplit := upTo_append_onwards t.reach (onwards t.first ds)
    rwa [hnone, List.nil_append] at hsplit
  rw [hnone] at hwithin
  rw [hbehind] at htail
  have hlt : ∀ d ∈ upTo t.first ds, d.first < t.last :=
    fun d hd => Nat.lt_of_lt_of_le (lt_of_mem_upTo hd) ht.le
  refine ⟨hrefuses, hwithin, fun d hd => ?_, ?_, fun {c} hrun => ?_⟩
  · rw [← hbehind] at hd
    exact le_of_mem_onwards (h.inOrder.onwards t.first) hd
  · have hamong := htail.append_of_lt hts hlt (by rw [upTo_append_onwards]; exact h.inOrder)
      fun hleaves => by rwa [if_pos hleaves] at hlets
    rwa [upTo_append_onwards] at hamong
  · have hpieces : (∃ us : List Tree, t.pieces = us.map .inline) ∨
        t.pieces.all Piece.isCut = true := by
      by_cases hleaves : t.leavesRun true = true
      · exact .inl (pieces_of_leavesRun hleaves)
      · exact .inr (by rwa [if_neg hleaves] at hlets)
    have hparts : parts ds ts =
        (upTo t.first ds).map .definition ++ parts (onwards t.first ds) ts := by
      rw [← parts_append_of_lt hts hlt, upTo_append_onwards]
    rw [hparts, Part.arrange_held hpieces hrun, parts]
    simp only [hnone, hbehind, piecesWith_nil]

end

end EventTree

end MarkdownTree
