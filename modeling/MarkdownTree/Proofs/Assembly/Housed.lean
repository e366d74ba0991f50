import MarkdownTree.Proofs.Assembly.Pending

/-!
# Assembling trees with definitions inside

The assembly with definitions goes through the states of the one without. A definition is inserted
as soon as its position is reached and the container takes it: in front of the first event behind
it, or at the end of the innermost tag around it.

* `foldl_step_housed` — a tree adds its pieces with the definitions inside of it.
* `foldl_step_housedAll` — so does the content of a container that takes no definitions.
* `Assembly.LeavesToEnd` — what the content of a container comes to that takes them.
-/

namespace MarkdownTree

namespace EventTree

/-- The first event of a tree does not close a tag. -/
theorem events_eq_cons {t : EventTree} (h : t.wellNested = true) :
    ∃ e es, t.events = e :: es ∧ e.first = t.first ∧ e.event ≠ .stop := by
  cases t with
  | leaf event range =>
    refine ⟨_, _, rfl, rfl, ?_⟩
    rintro rfl
    cases h
  | element tag opening closing content => exact ⟨_, _, rfl, rfl, by simp⟩

/-- Whether a run is open behind a tree. -/
theorem run_foldl_piecesWith {t : EventTree} (h : t.wellNested = true) (ds : List Definition)
    (c : Content) :
    (!((piecesWith ds t).foldl (Content.feed false) c).run.isEmpty) =
      t.leavesRun (!c.run.isEmpty) := by
  cases t with
  | leaf e range =>
    rw [piecesWith, leavesRun]
    cases e with
    | start tag => cases h
    | stop => cases h
    | rule => rfl
    | _ => simp [Event.pieces, Event.inline?, Content.feed]
  | element tag opening closing content =>
    rw [piecesWith, leavesRun]
    cases tag.role with
    | transparent => simp [List.foldl_append, Content.feed]
    | _ => simp [Content.feed]

end EventTree

namespace Assembly

open Definition EventTree

/-! ## The places of definitions -/

/-- Whether the innermost open node is that of a tag, or none but the root is open. -/
def Opens : List Frame → Prop
  | [] | .explicit :: _ => True
  | _ => False

theorem Opens.settled {frames : List Frame} (h : Opens frames) : Settled frames := by
  unfold Opens at h
  split at h
  · trivial
  · trivial
  · cases h

theorem Opens.acceptsDefinitions {frames : List Frame} (h : Opens frames) (z : Zipper) :
    (bare z frames).acceptsDefinitions = z.layer.kind.acceptsDefinitions := by
  unfold Opens at h
  split at h
  · exact congrArg NodeKind.acceptsDefinitions z.currentKind_builder
  · exact congrArg NodeKind.acceptsDefinitions z.currentKind_builder
  · cases h

/-- Definitions that an open container takes are inserted behind its complete trees. -/
theorem flush_opens {z : Zipper} {frames : List Frame} (hframes : Opens frames)
    (hz : z.layer.kind.acceptsDefinitions = true) {ds rest : List Definition} {position : Nat}
    (hlt : ∀ d ∈ ds, d.first < position) (hle : ∀ d ∈ rest, position ≤ d.first) :
    ((bare z frames).withPending (ds ++ rest)).flush position =
      (bare (z.append (ds.map tree)) frames).withPending rest := by
  obtain ⟨hupTo, honwards⟩ := split_append hlt hle
  rw [flush_bare (by rw [hframes.acceptsDefinitions, hz]), hupTo, honwards]

/-- The end of a tag closes its container behind the definitions that are left in it. -/
theorem step_stop_housed (z : Zipper) {k : NodeKind} (hk : k.acceptsDefinitions = true)
    (frames : List Frame) (c : Content) (first : Nat) {last : Nat} {ds rest : List Definition}
    (hlt : ∀ d ∈ ds, d.first < last) (hle : ∀ d ∈ rest, last ≤ d.first) :
    ((inside (z.openNode k) (.explicit :: frames) c).withPending (ds ++ rest)).step
        ⟨.stop, first, last⟩ =
      (bare (z.append [.node k (c.trees ++ ds.map tree)]) frames).withPending rest := by
  have hclose := closeNodes_inside (z := z.openNode k) (c := c) (settled_explicit frames)
  have hopens : Opens (.explicit :: frames) := trivial
  have hflush := flush_opens (z := (z.openNode k).append c.trees) hopens (by simpa using hk) hlt hle
  show Assembly.stop _ last = _
  rw [stop_eq, closeNodes_withPending, hclose, inside_of_run_nil, hflush, pop_withPending,
    Zipper.append_append, ← Zipper.close_append_openNode]
  simp [bare, pop]

/-- What may be inserted before the first event of a tree is inserted first. -/
theorem foldl_step_flush {t : EventTree} (h : t.wellNested = true) {a : Assembly}
    (hle : ∀ d ∈ (a.flush t.first).pending, t.first ≤ d.first) :
    t.events.foldl step a = t.events.foldl step (a.flush t.first) := by
  obtain ⟨e, es, hevents, hfirst, hstop⟩ := events_eq_cons h
  have htwice : (a.flush t.first).flush t.first = a.flush t.first := flush_of_forall_le hle
  have hstep : a.step e = (a.flush t.first).step e := by
    obtain ⟨event, first, last⟩ := e
    change first = t.first at hfirst
    rw [← hfirst] at htwice ⊢
    cases event with
    | stop => exact absurd rfl hstop
    | _ => simp only [step, htwice]
  rw [hevents, List.foldl_cons, List.foldl_cons, hstep]

/-- The definitions in front of a tree are inserted before its first event, unless they lie in a run
that is open. -/
theorem flush_inside {z : Zipper} {frames : List Frame} {c : Content} (hframes : Opens frames)
    (hz : z.layer.kind.acceptsDefinitions = true) {ds rest : List Definition} {position : Nat}
    (hds : InOrder ds) (hrun : upTo position ds = [] ∨ c.run = [])
    (hrest : ∀ d ∈ rest, position ≤ d.first) :
    ∃ c' : Content, c'.run = c.run ∧
      ((inside z frames c).withPending (ds ++ rest)).flush position =
        (inside z frames c').withPending (onwards position ds ++ rest) ∧
      ∀ ps, c'.done ++ Part.arrange c'.run [] ps =
        c.done ++ Part.arrange c.run [] ((upTo position ds).map .definition ++ ps) := by
  have hle : ∀ d ∈ onwards position ds ++ rest, position ≤ d.first :=
    List.forall_mem_append.mpr ⟨fun d hd => le_of_mem_onwards hds hd, hrest⟩
  rw [← upTo_append_onwards_append position ds rest]
  by_cases hnone : upTo position ds = []
  · rw [hnone, List.nil_append]
    exact ⟨c, rfl, flush_of_forall_le hle, fun ps => rfl⟩
  · obtain ⟨done, run⟩ := c
    cases hrun.resolve_left hnone
    refine ⟨⟨done ++ (upTo position ds).map tree, []⟩, rfl, ?_, fun ps => ?_⟩
    · have hflush := flush_opens (z := z.append done) hframes (by simpa using hz)
        (fun d (hd : d ∈ upTo position ds) => lt_of_mem_upTo hd) hle
      rw [inside_of_run_nil, hflush, Zipper.append_append]
      rfl
    · rw [Part.arrange_definitions_append, List.append_assoc]

/-! ## Tags in front of which definitions wait -/

section

variable {held ds rest : List Definition} {tag : Tag} {opening closing : SourceRange}
  {content : List EventTree}

/-- Nothing is inserted at the start of a tag when the definitions lie inside of it or behind it. -/
theorem step_start_housed {a : Assembly} (ha : a.pending = [])
    (hranged : (element tag opening closing content).Ranged)
    (hheld : held = [] ∨ a.acceptsDefinitions = false)
    (hds : (element tag opening closing content).Within ds)
    (hrest : ∀ d ∈ rest, closing.last ≤ d.first) :
    (a.withPending (held ++ (ds ++ rest))).step ⟨.start tag, opening.first, opening.last⟩ =
      (a.start tag).withPending (held ++ (ds ++ rest)) := by
  have hlater : ∀ d ∈ ds ++ rest, opening.first ≤ d.first :=
    List.forall_mem_append.mpr ⟨hds.first_le, fun d hd => Nat.le_trans hranged.le (hrest d hd)⟩
  rw [step_waiting ha (by simp) hheld hlater, step_start ha]

variable (held) (z : Zipper) {kind : NodeKind} (frames : List Frame) (first : Nat) {last : Nat}
  (hkind : kind.acceptsDefinitions = false) (hrest : ∀ d ∈ rest, last ≤ d.first)

include hkind hrest

/-- The end of a tag whose node takes no definitions closes its container. -/
theorem step_stop_filled_waiting (ps : List Piece) :
    ((inside (z.openNode kind) (.explicit :: frames)
        (ps.foldl (Content.feed kind.acceptsInline) .new)).withPending (held ++ rest)).step
        ⟨.stop, first, last⟩ =
      (bare (z.append [.fill kind ps]) frames).withPending (held ++ rest) := by
  rw [step_stop_waiting (pending_inside ..) (.inr _) hrest, step_stop_filled]
  rw [closeNodes_inside (settled_explicit frames)]
  exact refuses_of_kind (by simpa using hkind) _ _

theorem step_stop_node_waiting (ts : List Tree) :
    ((bare ((z.openNode kind).append ts) (.explicit :: frames)).withPending (held ++ rest)).step
        ⟨.stop, first, last⟩ =
      (bare (z.append [.node kind ts]) frames).withPending (held ++ rest) := by
  rw [step_stop_waiting rfl (.inr _) hrest, step_stop_node]
  exact refuses_bare (by simpa using hkind) _

/-- The end of a table or its head, with a body or row to close as well. -/
theorem step_stop_nodes_waiting (kind' : NodeKind) (ts us : List Tree) :
    ((bare ((((z.openNode kind).append ts).openNode kind').append us)
        (.implicit :: .explicit :: frames)).withPending (held ++ rest)).step ⟨.stop, first, last⟩ =
      (bare (z.append [.node kind (ts ++ [.node kind' us])]) frames).withPending
        (held ++ rest) := by
  rw [step_stop_waiting rfl (.inr _) hrest, step_stop_nodes]
  have hclose : (bare ((((z.openNode kind).append ts).openNode kind').append us)
      (.implicit :: .explicit :: frames)).closeNodes =
        bare ((z.openNode kind).append (ts ++ [.node kind' us])) (.explicit :: frames) := by
    simp [bare, closeNodes, closeImplicits]
  rw [hclose]
  exact refuses_bare (by simpa using hkind) _

end

/-! ## Table parts with definitions inside -/

/-- Whether the events of some cells append these cells to their row, with the definitions `ds`
inside of them. -/
def AppendsHoused (held ds rest : List Definition) (cells : List EventTree) : Prop :=
  ∀ (z : Zipper) (frames : List Frame), z.layer.kind = .block .tableRow →
    (eventsAll cells).foldl step ((bare z frames).withPending (held ++ (ds ++ rest))) =
      (bare (z.append (Piece.wrapRuns [] (Part.pieces (parts ds cells)))) frames).withPending
        (held ++ rest)

section

variable {held ds rest : List Definition} {opening closing : SourceRange} {cells : List EventTree}

/-- Definitions that are held in front of a table part are held in front of its content and of what
is behind it. -/
theorem held_part {tag : Tag} (htag : tag.role.acceptsDefinitions = false) {ts : List EventTree}
    (h : held = [] ∨ refusesAll (element tag opening closing cells :: ts) = true) :
    held = [] ∨ refusesAll cells = true ∧ refusesAll ts = true := by
  simpa [refusesAll, refuses, htag] using h

/-- A head is one header with one row. -/
theorem foldl_step_housed_head (hcells : AppendsHoused held ds rest cells)
    (hranged : (element .tableHead opening closing cells).Ranged)
    (hds : (element .tableHead opening closing cells).Within ds)
    (hrest : ∀ d ∈ rest, closing.last ≤ d.first) {z : Zipper} {alignments : List Alignment}
    (hz : z.layer.kind = .block (.tableRoot alignments)) (frames : List Frame) :
    (element .tableHead opening closing cells).events.foldl step
        ((bare z frames).withPending (held ++ (ds ++ rest))) =
      (bare (z.append [.node (.block .tableHeader)
        [.fill (.block .tableRow) (Part.pieces (parts ds cells))]]) frames).withPending
          (held ++ rest) := by
  have hpar : z.layer.kind.isParagraph = false := by rw [hz]; rfl
  have haccepts : z.layer.kind.acceptsDefinitions = false := by rw [hz]; rfl
  have hheader : (NodeKind.block .tableHeader).acceptsDefinitions = false := rfl
  have hstop := step_stop_nodes_waiting held z frames closing.first hheader hrest (.block .tableRow)
    [] (Piece.wrapRuns [] (Part.pieces (parts ds cells)))
  rw [Zipper.append_nil] at hstop
  rw [EventTree.events, List.foldl_cons, List.foldl_append,
    step_start_housed rfl hranged (.inr (refuses_bare haccepts frames)) hds hrest, start_eq]
  simp only [Tag.role]
  rw [openBlock_bare hpar, openImplicit_bare, hcells _ _ rfl, List.foldl_cons, List.foldl_nil, hstop]
  rfl

/-- A row that was opened in a body is one row. -/
theorem foldl_step_housed_row (hcells : AppendsHoused held ds rest cells)
    (hrest : ∀ d ∈ rest, closing.last ≤ d.first) (z : Zipper) (frames : List Frame) :
    (eventsAll cells ++ [(⟨.stop, closing.first, closing.last⟩ : Located)]).foldl step
        ((bare (z.openNode (.block .tableRow)) (.explicit :: frames)).withPending
          (held ++ (ds ++ rest))) =
      (bare (z.append [.fill (.block .tableRow) (Part.pieces (parts ds cells))]) frames).withPending
        (held ++ rest) := by
  rw [List.foldl_append, hcells _ _ rfl, List.foldl_cons, List.foldl_nil,
    step_stop_node_waiting held z frames _ rfl hrest]
  rfl

end

/-! ## The content of a container that takes definitions -/

/-- A tree with definitions in front of it and inside of it, where those inside are known to be
inserted with the tree. -/
theorem foldl_step_reached {t : EventTree} (hnested : t.wellNested = true) (ht : t.Ranged)
    {z : Zipper} {frames : List Frame} {c : Content} {ds rest : List Definition}
    (hframes : Opens frames) (hz : z.layer.kind.acceptsDefinitions = true) (hds : InOrder ds)
    (hrest : ∀ d ∈ rest, t.last ≤ d.first) (hrun : upTo t.first ds = [] ∨ c.run = [])
    (hinside : ∀ (c : Content) (rest : List Definition), (∀ d ∈ rest, t.reach ≤ d.first) →
      t.events.foldl step
          ((inside z frames c).withPending (upTo t.reach (onwards t.first ds) ++ rest)) =
        (inside z frames ((t.piecesWith (upTo t.reach (onwards t.first ds))).foldl
          (Content.feed false) c)).withPending rest) :
    ∃ c' : Content, c'.run = c.run ∧
      t.events.foldl step ((inside z frames c).withPending (ds ++ rest)) =
        (inside z frames ((t.piecesWith (upTo t.reach (onwards t.first ds))).foldl
          (Content.feed false) c')).withPending (onwards t.reach (onwards t.first ds) ++ rest) ∧
      ∀ ps, c'.done ++ Part.arrange c'.run [] ps =
        c.done ++ Part.arrange c.run [] ((upTo t.first ds).map .definition ++ ps) := by
  have hfront : ∀ d ∈ rest, t.first ≤ d.first := fun d hd => Nat.le_trans ht.le (hrest d hd)
  obtain ⟨c', hrun', hflush, harrange⟩ := flush_inside (z := z) (c := c) hframes hz hds hrun hfront
  have hbehind : ∀ d ∈ onwards t.reach (onwards t.first ds) ++ rest, t.reach ≤ d.first :=
    List.forall_mem_append.mpr ⟨fun d hd => le_of_mem_onwards (hds.onwards t.first) hd,
      fun d hd => Nat.le_trans ht.reach_le (hrest d hd)⟩
  refine ⟨c', hrun', ?_, harrange⟩
  rw [foldl_step_flush hnested, hflush, ← upTo_append_onwards_append t.reach _ rest,
    hinside _ _ hbehind]
  rw [hflush]
  exact List.forall_mem_append.mpr ⟨fun d hd => le_of_mem_onwards hds hd, hfront⟩

/-- What the content of a container comes to: the inside of the container, and definitions that are
left to its end. -/
structure LeavesToEnd (z : Zipper) (frames : List Frame) (ts : List EventTree)
    (ds rest : List Definition) (c c' : Content) (ds' : List Definition) : Prop where
  foldl_step : (eventsAll ts).foldl step ((inside z frames c).withPending (ds ++ rest)) =
    (inside z frames c').withPending (ds' ++ rest)
  arrange : c'.done ++ Part.arrange c'.run [] (ds'.map .definition) =
    c.done ++ Part.arrange c.run [] (parts ds ts)
  subset : ds' ⊆ ds
  closed : (∀ t ∈ ts, t.leavesRun false = false) → c.run = [] → c'.run = []

/-- The children of a container with all of its content. -/
theorem LeavesToEnd.children_eq {z : Zipper} {frames : List Frame} {ts : List EventTree}
    {ds rest : List Definition} {c' : Content} {ds' : List Definition}
    (h : LeavesToEnd z frames ts ds rest .new c' ds') :
    c'.trees ++ ds'.map tree = Part.arrange [] [] (parts ds ts) := by
  have harrange := h.arrange
  rw [Part.arrange_definitions, List.append_nil, ← List.append_assoc] at harrange
  exact harrange

-- By recursion on the forest. The definitions inside of a tree are pending in front of it, and
-- those behind it still are when it is complete. Others are held in front of a tree: nothing in it
-- takes them.
mutual

/-- **A tree adds its pieces with the definitions inside of it.** -/
theorem foldl_step_housed : ∀ (t : EventTree), t.wellNested = true → t.Ranged →
    ∀ {z : Zipper} {frames : List Frame} {c : Content} {held ds rest : List Definition},
      Settled frames → (z.layer.kind.acceptsInline = true → c.run = []) →
      (held = [] ∨ t.refuses = true ∧ (inside z frames c).acceptsDefinitions = false) →
      t.Within ds → (∀ d ∈ rest, t.reach ≤ d.first) →
      t.events.foldl step ((inside z frames c).withPending (held ++ (ds ++ rest))) =
        (inside z frames ((t.piecesWith ds).foldl
          (Content.feed z.layer.kind.acceptsInline) c)).withPending (held ++ rest)
  | .leaf e range, hnested, _, z, frames, c, held, ds, rest, hs, hc, hheld, hds, hrest => by
    have hstop : e ≠ .stop := by
      rintro rfl
      cases hnested
    have hnone : ds = [] := hds.houses
    have hrest : ∀ d ∈ rest, range.first ≤ d.first := hrest
    rw [hnone, List.nil_append, EventTree.events, List.foldl_cons, List.foldl_nil,
      step_waiting (pending_inside ..) hstop (hheld.imp_right And.right) hrest,
      step_leaf hnested hs hc, piecesWith]
  | .element tag opening closing content, hnested, hranged, z, frames, c, held, ds, rest, hs, hc,
      hheld, hds, hrest => by
    rw [EventTree.events, List.foldl_cons, List.foldl_append,
      step_start_housed (pending_inside ..) hranged (hheld.imp_right And.right) hds hrest, start_eq,
      piecesWith]
    obtain ⟨rfl, hcontent⟩ := hranged
    have hamong := hds.content
    have hrest : ∀ d ∈ rest, opening.last ≤ d.first := hrest
    have hheld : held = [] ∨ tag.role.acceptsDefinitions = false ∧ refusesAll content = true := by
      refine hheld.imp_right fun h => ?_
      simpa [refuses] using h.1
    rw [EventTree.wellNested] at hnested
    cases hrole : tag.role with
    | block b =>
      simp only [hrole] at hnested hamong hheld ⊢
      rw [openBlock_inside hs]
      cases haccepts : (NodeKind.block b).acceptsDefinitions with
      | false =>
        rw [Tag.Role.acceptsDefinitions, haccepts] at hamong
        rw [foldl_step_housedAll content hnested hcontent (settled_explicit _) (fun _ => rfl)
          (hheld.imp_right fun h => ⟨h.2, refuses_of_kind haccepts _⟩) hamong hrest]
        simp only [List.foldl_cons, List.foldl_nil, Zipper.layer_openNode_kind]
        rw [step_stop_filled_waiting held _ frames _ haccepts hrest, Zipper.append_append,
          Part.fill, if_neg (by simp [haccepts])]
        rfl
      | true =>
        rw [Tag.Role.acceptsDefinitions, haccepts] at hamong hheld
        obtain rfl : held = [] := hheld.resolve_right (by simp)
        have hopens : Opens (.explicit :: frames) := trivial
        obtain ⟨c', ds', hc'⟩ := exists_leavesToEnd content hnested hcontent
          (z := (z.append c.trees).openNode (.block b)) (c := .new) hopens haccepts hamong hrest
        have hlt : ∀ d ∈ ds', d.first < opening.last :=
          fun d hd => hds.lt_reach d (hc'.subset hd)
        rw [List.nil_append, hc'.foldl_step, List.foldl_cons, List.foldl_nil,
          step_stop_housed (z.append c.trees) haccepts frames c' opening.first hlt hrest,
          hc'.children_eq, Zipper.append_append, Part.fill, if_pos haccepts]
        rfl
    | inline i =>
      simp only [hrole] at hnested hamong hheld ⊢
      obtain ⟨z', frames', hopen, hclose⟩ := openInline_inside frames i hc
      rw [hopen, foldl_step_housedAll content hnested hcontent (settled_explicit _) (fun _ => rfl)
        (hheld.imp_right fun h => ⟨h.2, refuses_of_kind rfl _⟩) hamong hrest]
      simp only [List.foldl_cons, List.foldl_nil, Zipper.layer_openNode_kind]
      have hinline : (NodeKind.inline i).acceptsDefinitions = false := rfl
      rw [step_stop_filled_waiting held _ frames' _ hinline hrest, hclose]
      rfl
    | literal kind =>
      -- the content goes into the frame, where no definition is accepted
      simp only [hrole] at hnested hamong ⊢
      have hrefuses := refusesAll_of_leaves (fun _ _ _ _ => rfl) hnested
      have hframe : ∀ text : String,
          (bare (z.append c.trees) (.literal kind text :: frames)).withPending (held ++ rest) =
            ⟨(z.append c.trees).builder, .literal kind text :: frames, held ++ rest⟩ := fun _ => rfl
      rw [openFrame_inside hs, eq_nil_of_refusesAll hrefuses hamong.houses, List.nil_append, hframe,
        foldl_step_literal _ _ _ _ content "" hnested, ← hframe, List.foldl_cons, List.foldl_nil,
        step_stop_waiting rfl (.inr rfl) hrest, step_stop_of_pending_nil rfl]
      simp [bare, closeNodes, closeImplicits, pop, leaf, Content.feed, inside]
    | transparent =>
      simp only [hrole] at hnested hamong hheld ⊢
      rw [openFrame_inside hs, ← inside_of_run_nil,
        foldl_step_housedAll content hnested hcontent (settled_transparent _) (fun _ => rfl)
          (hheld.imp_right fun h => ⟨h.2, refuses_transparent _ _⟩) hamong hrest]
      simp only [List.foldl_cons, List.foldl_nil, List.foldl_append]
      rw [step_stop_waiting (pending_inside ..) _ hrest, step_stop_transparent]
      · rfl
      · rw [closeNodes_inside (settled_transparent _)]
        exact .inr (refuses_transparent _ _ _)
    | table alignments =>
      simp only [hrole] at hnested hamong hheld ⊢
      rw [openBlock_inside hs, inside_new, ← List.foldl_append,
        foldl_step_housed_table content hnested hcontent (hheld.imp_right And.right) hamong hrest,
        Zipper.append_append]
      rfl
    | head => simp [hrole] at hnested
    | row => simp [hrole] at hnested
    | cell => simp [hrole] at hnested
    | metadata =>
      simp only [hrole] at hnested hamong ⊢
      have hrefuses := refusesAll_of_leaves (fun _ _ _ _ => rfl) hnested
      rw [eq_nil_of_refusesAll hrefuses hamong.houses, List.nil_append, List.foldl_nil]
      generalize inside z frames c = a
      have hcontent := foldl_step_metadata a.builder a.frames (held ++ rest) content hnested
      rw [withPending, hcontent]
      rfl

/-- The content of a container that takes no definitions adds its pieces. -/
theorem foldl_step_housedAll : ∀ (ts : List EventTree), wellNestedAll ts = true →
    ∀ {low high : Nat}, RangedAll low high ts →
    ∀ {z : Zipper} {frames : List Frame} {c : Content} {held ds rest : List Definition} {run : Bool},
      Settled frames → (z.layer.kind.acceptsInline = true → c.run = []) →
      (held = [] ∨ refusesAll ts = true ∧ Refuses z frames) → Among false run ts ds →
      (∀ d ∈ rest, high ≤ d.first) →
      (eventsAll ts).foldl step ((inside z frames c).withPending (held ++ (ds ++ rest))) =
        (inside z frames ((Part.pieces (parts ds ts)).foldl
          (Content.feed z.layer.kind.acceptsInline) c)).withPending (held ++ rest)
  | [], _, _, _, _, z, frames, c, held, ds, rest, _, _, _, _, hds, _ => by
    rw [hds.eq_nil, List.nil_append]
    rfl
  | t :: ts, hnested, low, high, hranged, z, frames, c, held, ds, rest, run, hs, hc, hheld, hds,
      hrest => by
    rw [wellNestedAll, Bool.and_eq_true] at hnested
    have hrefuses : held = [] ∨ (t.refuses = true ∧ refusesAll ts = true) ∧ Refuses z frames := by
      simpa [refusesAll] using hheld
    obtain ⟨hhead, htail, hpieces⟩ := hds.split
    have hbehind := hds.reach_le hranged hrest
    obtain ⟨-, ht, hts⟩ := hranged
    rw [eventsAll, List.foldl_append, ← upTo_append_onwards_append t.reach ds rest,
      foldl_step_housed t hnested.1 ht hs hc
        (hrefuses.imp_right fun h => ⟨h.1.1, h.2 c⟩) hhead hbehind,
      foldl_step_housedAll ts hnested.2 hts hs _ (hrefuses.imp_right fun h => ⟨h.1.2, h.2⟩) htail
        hrest, hpieces, List.foldl_append]
    intro haccepts
    rw [haccepts]
    exact Content.run_foldl_feed _ (hc haccepts)

/-- Cells are appended to their row with the definitions inside of them. -/
theorem foldl_step_housed_cells : ∀ (cells : List EventTree), cellsNested cells = true →
    ∀ {low high : Nat}, RangedAll low high cells →
    ∀ {held ds rest : List Definition} {run : Bool}, (held = [] ∨ refusesAll cells = true) →
      Among false run cells ds → (∀ d ∈ rest, high ≤ d.first) → AppendsHoused held ds rest cells
  | [], _, _, _, _, held, ds, rest, _, _, hds, _, z, frames, _ => by
    rw [hds.eq_nil]
    simp [eventsAll, parts, Part.pieces, Piece.wrapRuns, Piece.wrap]
  | .element .tableCell opening closing content :: cells, hnested, low, high, hranged, held, ds, rest,
      run, hheld, hds, hrest, z, frames, hz => by
    rw [cellsNested, Bool.and_eq_true] at hnested
    have hpar : z.layer.kind.isParagraph = false := by rw [hz]; rfl
    have haccepts : z.layer.kind.acceptsDefinitions = false := by rw [hz]; rfl
    have hrefuses := held_part rfl hheld
    obtain ⟨hhead, htail, hpieces⟩ := hds.split
    have hbehind := hds.reach_le hranged hrest
    obtain ⟨-, ht, hts⟩ := hranged
    simp only [reach_element] at hhead htail hpieces hbehind
    rw [eventsAll, List.foldl_append, EventTree.events, List.foldl_cons, List.foldl_append,
      ← upTo_append_onwards_append closing.last ds rest,
      step_start_housed rfl ht (.inr (refuses_bare haccepts frames)) hhead hbehind, start_eq]
    simp only [Tag.role, openBlock_bare hpar]
    obtain ⟨rfl, hcontent⟩ := ht
    rw [← inside_new, foldl_step_housedAll content hnested.1 hcontent (settled_explicit _)
      (fun _ => rfl) (hrefuses.imp_right fun h => ⟨h.1, refuses_of_kind rfl _⟩) hhead.content hbehind]
    simp only [List.foldl_cons, List.foldl_nil, Zipper.layer_openNode_kind]
    have hcell : (NodeKind.block .tableCell).acceptsDefinitions = false := rfl
    rw [step_stop_filled_waiting held z frames _ hcell hbehind,
      foldl_step_housed_cells cells hnested.2 hts (hrefuses.imp_right And.right) htail hrest _ _
        (by simpa using hz), hpieces]
    simp [piecesWith, Tag.role, Piece.wrapRuns, Piece.wrap, Part.fill, NodeKind.acceptsDefinitions]

/-- The rows behind the first one are placed into the body that is open already. -/
theorem foldl_step_housed_rows : ∀ (rows : List EventTree), rowsNested rows = true →
    ∀ {low high : Nat}, RangedAll low high rows →
    ∀ {held ds rest : List Definition} {run : Bool}, (held = [] ∨ refusesAll rows = true) →
      Among false run rows ds → (∀ d ∈ rest, high ≤ d.first) →
      ∀ {z : Zipper} (frames : List Frame), z.layer.kind = .block .tableBody →
      (eventsAll rows).foldl step ((bare z frames).withPending (held ++ (ds ++ rest))) =
        (bare (z.append ((Part.pieces (parts ds rows)).filterMap Piece.tree?)) frames).withPending
          (held ++ rest)
  | [], _, _, _, _, held, ds, rest, _, _, hds, _, z, frames, _ => by
    rw [hds.eq_nil]
    simp [eventsAll, parts, Part.pieces]
  | .element .tableRow opening closing cells :: rows, hnested, low, high, hranged, held, ds, rest, run,
      hheld, hds, hrest, z, frames, hz => by
    rw [rowsNested, Bool.and_eq_true] at hnested
    have hpar : z.layer.kind.isParagraph = false := by rw [hz]; rfl
    have haccepts : z.layer.kind.acceptsDefinitions = false := by rw [hz]; rfl
    have hkind : (bare z frames).builder.currentKind = .block .tableBody := by simp [bare, hz]
    have hrefuses := held_part rfl hheld
    obtain ⟨hhead, htail, hpieces⟩ := hds.split
    have hbehind := hds.reach_le hranged hrest
    obtain ⟨-, ht, hts⟩ := hranged
    simp only [reach_element] at hhead htail hpieces hbehind
    obtain ⟨rfl, hcontent⟩ := id ht
    have hcells := foldl_step_housed_cells cells hnested.1 hcontent (hrefuses.imp_right And.left)
      hhead.content hbehind
    rw [eventsAll, List.foldl_append, EventTree.events, List.foldl_cons,
      ← upTo_append_onwards_append opening.last ds rest,
      step_start_housed rfl ht (.inr (refuses_bare haccepts frames)) hhead hbehind, start_eq]
    simp only [Tag.role, hkind, openBlock_bare hpar]
    rw [foldl_step_housed_row hcells hbehind,
      foldl_step_housed_rows rows hnested.2 hts (hrefuses.imp_right And.right) htail hrest _
        (by simpa using hz), hpieces, List.filterMap_append, Zipper.append_append]
    rfl

/-- The first row opens the body, and the end of the table closes it. -/
theorem foldl_step_housed_table : ∀ (content : List EventTree), tableNested content = true →
    ∀ {low high : Nat}, RangedAll low high content →
    ∀ {held ds rest : List Definition} {run : Bool}, (held = [] ∨ refusesAll content = true) →
      Among false run content ds → (∀ d ∈ rest, high ≤ d.first) →
      ∀ {z : Zipper} {frames : List Frame} {alignments : List Alignment} {first : Nat},
      (eventsAll content ++ [(⟨.stop, first, high⟩ : Located)]).foldl step
          ((bare (z.openNode (.block (.tableRoot alignments))) (.explicit :: frames)).withPending
            (held ++ (ds ++ rest))) =
        (bare (z.append [.node (.block (.tableRoot alignments))
          (Tree.tableParts ((Part.pieces (parts ds content)).filterMap Piece.tree?))])
            frames).withPending (held ++ rest)
  | .element .tableHead opening closing cells :: rows, hnested, low, high, hranged, held, ds, rest,
      run, hheld, hds, hrest, z, frames, alignments, start => by
    rw [tableNested, Bool.and_eq_true] at hnested
    have hrefuses := held_part rfl hheld
    obtain ⟨hhead, htail, hpieces⟩ := hds.split
    have hbehind := hds.reach_le hranged hrest
    obtain ⟨-, ht, hts⟩ := hranged
    simp only [reach_element] at hhead htail hpieces hbehind
    obtain ⟨rfl, hcontent⟩ := id ht
    have hcells := foldl_step_housed_cells cells hnested.1 hcontent (hrefuses.imp_right And.left)
      hhead.content hbehind
    rw [eventsAll, List.append_assoc, List.foldl_append,
      ← upTo_append_onwards_append opening.last ds rest,
      foldl_step_housed_head hcells ht hhead hbehind (Zipper.layer_openNode_kind ..), hpieces]
    match rows, hnested.2 with
    | [], _ =>
      -- no row, no body
      rw [htail.eq_nil, List.nil_append, eventsAll, List.nil_append, List.foldl_cons, List.foldl_nil,
        step_stop_node_waiting held z frames _ rfl hrest]
      rfl
    | .element .tableRow opening' closing' row :: rows, hrows =>
      rw [rowsNested, Bool.and_eq_true] at hrows
      have hrefuses' := held_part rfl (hrefuses.imp_right And.right)
      obtain ⟨hhead', htail', hpieces'⟩ := htail.split
      have hbehind' := htail.reach_le hts hrest
      obtain ⟨-, ht', hts'⟩ := hts
      simp only [reach_element] at hhead' htail' hpieces' hbehind'
      obtain ⟨rfl, hcontent'⟩ := id ht'
      have hrow := foldl_step_housed_cells row hrows.1 hcontent' (hrefuses'.imp_right And.left)
        hhead'.content hbehind'
      have hkind : ∀ ts frames, (bare ((z.openNode (.block (.tableRoot alignments))).append ts)
          frames).builder.currentKind = .block (.tableRoot alignments) := by
        simp [bare]
      rw [eventsAll, EventTree.events, List.append_assoc, List.foldl_append, List.foldl_cons,
        ← upTo_append_onwards_append opening'.last _ rest,
        step_start_housed rfl ht' (.inr (refuses_bare (by simp; rfl) _)) hhead' hbehind', start_eq]
      simp only [Tag.role, hkind]
      -- the root is current, so the first row opens the body; the others find it open
      rw [openImplicit_bare, openBlock_bare (by rfl), foldl_step_housed_row hrow hbehind',
        List.foldl_append, foldl_step_housed_rows rows hrows.2 hts' (hrefuses'.imp_right And.right)
          htail' hrest _ (by rfl), List.foldl_cons, List.foldl_nil, Zipper.append_append,
        step_stop_nodes_waiting held z frames _ rfl hrest, hpieces']
      rfl

/-- The content of a container that takes definitions. Those behind the last tree, and those in a
run that is open, are left to the end of the container. -/
theorem exists_leavesToEnd : ∀ (ts : List EventTree), wellNestedAll ts = true →
    ∀ {low high : Nat}, RangedAll low high ts →
    ∀ {z : Zipper} {frames : List Frame} {c : Content} {ds rest : List Definition},
      Opens frames → z.layer.kind.acceptsDefinitions = true →
      Among true (!c.run.isEmpty) ts ds → (∀ d ∈ rest, high ≤ d.first) →
      ∃ c' ds', LeavesToEnd z frames ts ds rest c c' ds'
  | [], _, _, _, _, _, _, c, ds, _, _, _, _, _ =>
    ⟨c, ds, rfl, rfl, fun _ hd => hd, fun _ hrun => hrun⟩
  | t :: ts, hnested, low, high, ⟨_, ht, hts⟩, z, frames, c, ds, rest, hframes, hz, hds, hrest => by
    rw [wellNestedAll, Bool.and_eq_true] at hnested
    have hinline : z.layer.kind.acceptsInline = false := by
      cases haccepts : z.layer.kind.acceptsInline with
      | false => rfl
      | true => rw [NodeKind.acceptsDefinitions_of_acceptsInline haccepts] at hz; cases hz
    have hc : ∀ c : Content, z.layer.kind.acceptsInline = true → c.run = [] := by simp [hinline]
    by_cases hheld : upTo t.first ds ≠ [] ∧ c.run ≠ []
    · -- the definitions lie in a run: they wait, and are let out behind it
      have hopen : (!c.run.isEmpty) = true := by simp [hheld.2]
      rw [hopen] at hds
      obtain ⟨hrefuses, hwithin, hreach, htail, harrange⟩ := hds.waits ⟨‹_›, ht, hts⟩ hheld.1
      have hbehind : ∀ d ∈ onwards t.first ds ++ rest, t.reach ≤ d.first :=
        List.forall_mem_append.mpr ⟨hreach, fun d hd =>
          Nat.le_trans ht.reach_le (Nat.le_trans hts.le (hrest d hd))⟩
      have hwaits : upTo t.first ds = [] ∨
          t.refuses = true ∧ (inside z frames c).acceptsDefinitions = false :=
        .inr ⟨hrefuses, refuses_of_run hheld.2 z frames⟩
      have hfold := foldl_step_housed t hnested.1 ht hframes.settled (hc c) hwaits hwithin hbehind
      rw [List.nil_append, upTo_append_onwards_append, piecesWith_nil, hinline] at hfold
      have hleaves := run_foldl_piecesWith hnested.1 [] c
      rw [piecesWith_nil, hopen] at hleaves
      rw [← hleaves] at htail
      obtain ⟨c', ds', hc'⟩ := exists_leavesToEnd ts hnested.2 hts hframes hz htail hrest
      refine ⟨c', ds', ?_, ?_, hc'.subset, fun _ hnil => absurd hnil hheld.2⟩
      · rw [eventsAll, List.foldl_append, hfold, hc'.foldl_step]
      · rw [hc'.arrange, harrange hheld.2]
    · have hrun : upTo t.first ds = [] ∨ c.run = [] := by
        by_contra hcontra
        exact hheld (not_or.mp hcontra)
      -- the definitions in front of the tree, then those inside of it
      obtain ⟨c₁, hrun₁, hfold, harrange₁⟩ := foldl_step_reached hnested.1 ht hframes hz hds.inOrder
        (fun d hd => Nat.le_trans hts.le (hrest d hd)) hrun fun c rest hreach => by
          have hhoused := foldl_step_housed t hnested.1 ht (c := c) hframes.settled (hc c) (.inl rfl)
            hds.head hreach
          rwa [hinline] at hhoused
      -- then those behind it
      have hleaves := run_foldl_piecesWith hnested.1 (upTo t.reach (onwards t.first ds)) c₁
      have htail := hds.tail
      rw [hrun₁] at hleaves
      rw [← hleaves] at htail
      obtain ⟨c', ds', hc'⟩ := exists_leavesToEnd ts hnested.2 hts hframes hz htail hrest
      refine ⟨c', ds', ?_, ?_, ?_, ?_⟩
      · rw [eventsAll, List.foldl_append, hfold, hc'.foldl_step]
      · rw [hc'.arrange, ← Part.arrange_pieces_append, harrange₁, parts]
      · intro d hd
        exact (List.dropWhile_sublist _).subset ((List.dropWhile_sublist _).subset (hc'.subset hd))
      · intro hblocks hnil
        obtain ⟨hblock, hblocks⟩ := List.forall_mem_cons.mp hblocks
        refine hc'.closed hblocks ?_
        rw [hnil, List.isEmpty_nil, Bool.not_true, hblock] at hleaves
        simpa using hleaves

end

end Assembly

end MarkdownTree
