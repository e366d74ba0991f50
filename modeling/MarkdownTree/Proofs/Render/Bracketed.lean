import MarkdownTree.Document.Builder
import MarkdownTree.Proofs.Layout.Grammar
import MarkdownTree.Proofs.Render.Default
import MarkdownTree.Proofs.Render.Recorded

/-!
# Passes make well-bracketed calls

A composer may go on with the walk in the middle of its own output, also at the same node, its
siblings or its grandchildren, and the limit of nesting may cut the walk off anywhere. Still, if the
brackets of each of its action lists match, where going on counts as some blocks, then those of the
whole pass do: every way to go on adds well-bracketed calls, so it fits wherever blocks fit. A pass
without a composer is the case of no action lists.

* `Action.bracket` — the part an action plays in an action list.
* `Pass.Grows` — the calls that a part of a pass adds.
* `renderList_grows` — a list is rendered with its items counted from zero.
* `render_grows` — rendering a node adds well-bracketed calls.
* `run_bracketed` — so does a whole pass, and the layout builder has nothing to repair.
-/

namespace MarkdownTree

/-- The part an action plays: going on with the walk stands for blocks, and reporting does not
count. -/
def Action.bracket : Action → Option Bracket
  | .report _ => none
  | .emit call => call.bracket
  | .children | .default | .self | .firstChild | .nextSibling | .child _ | .grandchildren
  | .blockChildren | .absent | .depth | .diagnosticCount | .text _ | .table => some .blocks

/-- The calls of list items with the given bodies, counted from `index`. -/
def numberedItems : Nat → List (List Call) → List Call
  | _, [] => []
  | index, body :: bodies =>
    .itemStart index :: (body ++ .itemEnd :: numberedItems (index + 1) bodies)

theorem bracketedItems_numberedItems : ∀ (index : Nat) {bodies : List (List Call)},
    (∀ body ∈ bodies, Bracketed Call.bracket body) →
      BracketedItems Call.bracket (numberedItems index bodies)
  | _, [], _ => .nil
  | index, body :: bodies, h => by
    rw [List.forall_mem_cons] at h
    exact .item rfl h.1 rfl (bracketedItems_numberedItems (index + 1) h.2)

/-- What the default rule shows of a list: its kind, its start index and its items. -/
def Document.listing? (doc : Document) (id : NodeId) : Option (ListKind × Int × List NodeId) :=
  match doc.kind id with
  | .block .unorderedList => some (.unordered, 0, doc.listItems id)
  | .block (.orderedList start) => some (.ordered, Pass.startIndex start, doc.children id)
  | _ => none

namespace Pass

section

variable {σ : Type} [Sink σ]

/-- Renders the content of a list item: its children, or an empty place. -/
def renderItemBody (setup : PassSetup) (visit : NodeId → Pass σ → Pass σ) (id : NodeId)
    (p : Pass σ) : Pass σ :=
  match setup.doc.children id with
  | [] => p.emit setup .empty
  | children => renderAll visit children p

theorem renderItems_cons (setup : PassSetup) (visit : NodeId → Pass σ → Pass σ) (index : Nat)
    (id : NodeId) (ids : List NodeId) (p : Pass σ) :
    renderItems setup visit index (id :: ids) p =
      renderItems setup visit (index + 1) ids
        ((renderItemBody setup visit id (p.emit setup (.itemStart index))).emit setup .itemEnd) :=
  rfl

end

/-- Whether a recorded pass goes on from `p` to `p'` with calls of a kind. -/
def Grows (P : List Call → Prop) (p p' : Pass Recording) : Prop :=
  ∃ calls, P calls ∧ p'.sink.calls = p.sink.calls ++ calls

/-- Whether the calls between two states of a pass are well-bracketed. -/
abbrev GrowsByBlocks : Pass Recording → Pass Recording → Prop :=
  Grows (Bracketed Call.bracket)

/-- Whether the calls between two states of a pass are well-bracketed items. -/
abbrev GrowsByItems : Pass Recording → Pass Recording → Prop :=
  Grows (BracketedItems Call.bracket)

/-- Whether a way to go on with the walk adds well-bracketed calls at every node. -/
def KeepsBrackets (visit : NodeId → Pass Recording → Pass Recording) : Prop :=
  ∀ (id : NodeId) (p : Pass Recording), GrowsByBlocks p (visit id p)

namespace Grows

variable {p q r : Pass Recording}

theorem of_calls_eq {P : List Call → Prop} (hP : P []) (h : q.sink.calls = p.sink.calls) :
    Grows P p q :=
  ⟨[], hP, by rw [h, List.append_nil]⟩

theorem trans (h : GrowsByBlocks p q) (h' : GrowsByBlocks q r) : GrowsByBlocks p r := by
  obtain ⟨calls, hcalls, hq⟩ := h
  obtain ⟨calls', hcalls', hr⟩ := h'
  exact ⟨calls ++ calls', hcalls.append hcalls', by rw [hr, hq, List.append_assoc]⟩

end Grows

variable {setup : PassSetup} {visit : NodeId → Pass Recording → Pass Recording}

@[simp] theorem calls_emit (p : Pass Recording) (call : Call) :
    (p.emit setup call).sink.calls = p.sink.calls ++ [call] :=
  Recording.calls_emit setup.doc p.sink call

theorem emit_grows {call : Call} (h : call.bracket = some .blocks) (p : Pass Recording) :
    GrowsByBlocks p (p.emit setup call) :=
  ⟨[call], .single h, calls_emit p call⟩

theorem report_grows (p : Pass Recording) (id : NodeId) (kind : DiagnosticKind) :
    GrowsByBlocks p (p.report setup id kind) :=
  .of_calls_eq .nil rfl

/-! ## The default rules -/

theorem renderAll_grows (h : KeepsBrackets visit) :
    ∀ (ids : List NodeId) (p : Pass Recording), GrowsByBlocks p (renderAll visit ids p)
  | [], _ => .of_calls_eq .nil rfl
  | id :: ids, p => (h id p).trans (renderAll_grows h ids (visit id p))

theorem renderItemBody_grows (h : KeepsBrackets visit) (id : NodeId)
    (p : Pass Recording) : GrowsByBlocks p (renderItemBody setup visit id p) := by
  rw [renderItemBody]
  cases setup.doc.children id with
  | nil => exact emit_grows rfl p
  | cons child children => exact renderAll_grows h (child :: children) p

/-- Items are counted, and each holds well-bracketed calls. -/
theorem renderItems_grows (setup : PassSetup) (h : KeepsBrackets visit) :
    ∀ (ids : List NodeId) (index : Nat) (p : Pass Recording),
      ∃ bodies, bodies.length = ids.length ∧ (∀ body ∈ bodies, Bracketed Call.bracket body) ∧
        (renderItems setup visit index ids p).sink.calls =
          p.sink.calls ++ numberedItems index bodies
  | [], _, p => ⟨[], rfl, by simp, by simp [renderItems, numberedItems]⟩
  | id :: ids, index, p => by
    let q := renderItemBody setup visit id (p.emit setup (.itemStart index))
    obtain ⟨body, hbody, hcalls⟩ : GrowsByBlocks (p.emit setup (.itemStart index)) q :=
      renderItemBody_grows h id _
    obtain ⟨bodies, hlength, hbodies, hrest⟩ :=
      renderItems_grows setup h ids (index + 1) (q.emit setup .itemEnd)
    refine ⟨body :: bodies, by simp [hlength], List.forall_mem_cons.mpr ⟨hbody, hbodies⟩, ?_⟩
    rw [renderItems_cons, hrest, calls_emit, hcalls, calls_emit, numberedItems]
    simp

/-- **A list is rendered with its items counted from zero**, one for each item. -/
theorem renderList_grows (setup : PassSetup) (h : KeepsBrackets visit) (kind : ListKind)
    (start : Int) (items : List NodeId) (p : Pass Recording) :
    ∃ bodies, bodies.length = items.length ∧ (∀ body ∈ bodies, Bracketed Call.bracket body) ∧
      (renderList setup visit kind start items p).sink.calls =
        p.sink.calls ++ .listStart kind start :: (numberedItems 0 bodies ++ [.listEnd]) := by
  obtain ⟨bodies, hlength, hbodies, hcalls⟩ :=
    renderItems_grows setup h items 0 (p.emit setup (.listStart kind start))
  refine ⟨bodies, hlength, hbodies, ?_⟩
  rw [renderList, calls_emit, hcalls, calls_emit]
  simp

theorem renderList_growsByBlocks (h : KeepsBrackets visit) (kind : ListKind)
    (start : Int) (items : List NodeId) (p : Pass Recording) :
    GrowsByBlocks p (renderList setup visit kind start items p) := by
  obtain ⟨bodies, -, hbodies, hcalls⟩ := renderList_grows setup h kind start items p
  exact ⟨_, .list rfl (bracketedItems_numberedItems 0 hbodies) rfl .nil, hcalls⟩

theorem blockRule_grows (h : KeepsBrackets visit) (id : NodeId)
    (p : Pass Recording) (b : Block) : GrowsByBlocks p (blockRule setup visit id p b) := by
  cases b with
  | document => exact renderAll_grows h _ p
  | blockQuote =>
    obtain ⟨calls, hcalls, hq⟩ :=
      renderAll_grows h (setup.doc.children id) (p.emit setup .quoteStart)
    refine ⟨.quoteStart :: (calls ++ [.quoteEnd]), .quote rfl hcalls rfl .nil, ?_⟩
    rw [blockRule, calls_emit, hq, calls_emit]
    simp
  | unorderedList => exact renderList_growsByBlocks h _ _ _ p
  | orderedList start => exact renderList_growsByBlocks h _ _ _ p
  | heading level =>
    have hbody : Bracketed Call.bracket [.text id false] := .single rfl
    have hcalls : Bracketed Call.bracket (.headingStart level :: ([.text id false] ++
      .headingEnd :: [])) := .heading rfl hbody rfl .nil
    refine ⟨_, hcalls, ?_⟩
    rw [blockRule, calls_emit, calls_emit, calls_emit]
    simp
  | footReferenceDefinition label => exact (emit_grows rfl p).trans (renderAll_grows h _ _)
  | linkReferenceDefinition label destination title => exact .of_calls_eq .nil rfl
  | listItem => exact report_grows p id _
  | tableHeader => exact report_grows p id _
  | tableBody => exact report_grows p id _
  | tableRow => exact report_grows p id _
  | tableCell => exact report_grows p id _
  | _ => exact emit_grows rfl p

theorem defaultRule_grows (h : KeepsBrackets visit) (id : NodeId)
    (p : Pass Recording) : GrowsByBlocks p (defaultRule setup visit id p) := by
  rw [defaultRule]
  cases setup.doc.kind id with
  | block b => exact blockRule_grows h id p b
  | inline i =>
    cases i with
    | text literal => exact (report_grows p id _).trans (emit_grows rfl _)
    | _ => exact report_grows p id _

/-- The default rule of a list is `renderList`. -/
theorem defaultRule_of_listing? {id : NodeId} {kind : ListKind} {start : Int}
    {items : List NodeId} (hlisting : setup.doc.listing? id = some (kind, start, items))
    (p : Pass Recording) :
    defaultRule setup visit id p = renderList setup visit kind start items p := by
  rw [Document.listing?] at hlisting
  rw [defaultRule]
  split at hlisting
  · next hk =>
    cases hlisting
    rw [hk]
    rfl
  · next hk =>
    cases hlisting
    rw [hk]
    rfl
  · cases hlisting

/-! ## Composers -/

/-- An action that stands for blocks adds well-bracketed calls. -/
theorem perform_grows (h : KeepsBrackets visit) (id : NodeId) {action : Action}
    (haction : action.bracket = some .blocks) (p : Pass Recording) :
    GrowsByBlocks p (perform setup visit id p action) := by
  cases action with
  | children => exact renderAll_grows h _ p
  | default => exact defaultRule_grows h id p
  | self => exact h id p
  | firstChild => exact renderAll_grows h _ p
  | nextSibling => exact renderAll_grows h _ p
  | child index => exact renderAll_grows h _ p
  | grandchildren =>
    rw [perform]
    induction setup.doc.children id generalizing p with
    | nil => exact .of_calls_eq .nil rfl
    | cons c cs ih => exact (renderAll_grows h _ p).trans (ih _)
  | blockChildren =>
    rw [perform]
    by_cases hk : (setup.doc.kind id).acceptsInline = true
    · rw [if_pos hk]
      exact .of_calls_eq .nil rfl
    · rw [if_neg hk]
      exact renderAll_grows h _ p
  | absent => exact .of_calls_eq .nil rfl
  | report kind => cases haction
  | depth => exact emit_grows rfl p
  | diagnosticCount => exact emit_grows rfl p
  | text fadeOut => exact emit_grows rfl p
  | table => exact emit_grows rfl p
  | emit call => exact emit_grows haction p

/-- An action without a part makes no call. -/
theorem calls_perform_of_none {id : NodeId} {action : Action} (haction : action.bracket = none)
    (p : Pass Recording) : (perform setup visit id p action).sink.calls = p.sink.calls := by
  cases action with
  | report kind => rfl
  | emit call => exact absurd haction call.bracket_ne_none
  | _ => cases haction

/-- An action that starts or ends a container is a call. -/
theorem exists_emit_of_bracket {action : Action} {part : Bracket}
    (haction : action.bracket = some part) (hpart : part ≠ .blocks) :
    ∃ call : Call, call.bracket = some part ∧ action = .emit call := by
  cases action with
  | report kind => cases haction
  | emit call => exact ⟨call, haction, rfl⟩
  | _ =>
    cases haction
    exact absurd rfl hpart

/-- Actions for a container: the first starts it, and another one ends it. -/
theorem foldl_perform_container {P Q : List Call → Prop} {id : NodeId} {a z : Action}
    {inner rest : List Action} {kind : ContainerKind} (ha : a.bracket = some (.start kind))
    (hz : z.bracket = some (.stop kind))
    (hinner : ∀ p, Grows P p (inner.foldl (perform setup visit id) p))
    (hrest : ∀ p, Grows Q p (rest.foldl (perform setup visit id) p)) (p : Pass Recording) :
    ∃ start stop calls calls', start.bracket = some (.start kind) ∧
      stop.bracket = some (.stop kind) ∧ P calls ∧ Q calls' ∧
      ((a :: (inner ++ z :: rest)).foldl (perform setup visit id) p).sink.calls =
        p.sink.calls ++ start :: (calls ++ stop :: calls') := by
  obtain ⟨start, hstart, rfl⟩ := exists_emit_of_bracket ha (by simp)
  obtain ⟨stop, hstop, rfl⟩ := exists_emit_of_bracket hz (by simp)
  obtain ⟨calls, hcalls, hq⟩ := hinner (p.emit setup start)
  obtain ⟨calls', hcalls', hr⟩ :=
    hrest ((inner.foldl (perform setup visit id) (p.emit setup start)).emit setup stop)
  refine ⟨start, stop, calls, calls', hstart, hstop, hcalls, hcalls', ?_⟩
  rw [List.foldl_cons, List.foldl_append, List.foldl_cons, perform, perform, hr, calls_emit, hq,
    calls_emit]
  simp

theorem foldl_perform_skip {P : List Call → Prop} {id : NodeId} {a : Action} {rest : List Action}
    (ha : a.bracket = none) (hrest : ∀ p, Grows P p (rest.foldl (perform setup visit id) p))
    (p : Pass Recording) : Grows P p ((a :: rest).foldl (perform setup visit id) p) := by
  obtain ⟨calls, hcalls, hp⟩ := hrest (perform setup visit id p a)
  exact ⟨calls, hcalls, by rw [List.foldl_cons, hp, calls_perform_of_none ha]⟩

-- By recursion on the derivation for the actions: each of its rules becomes the same rule for the
-- calls, with all calls of an action in the place of the action.
mutual

/-- **Well-bracketed actions make well-bracketed calls.** -/
theorem foldl_perform_grows (h : KeepsBrackets visit) (id : NodeId) :
    ∀ {actions : List Action}, Bracketed Action.bracket actions → ∀ p : Pass Recording,
      GrowsByBlocks p (actions.foldl (perform setup visit id) p)
  | _, .nil, _ => .of_calls_eq .nil rfl
  | _, .skip ha hrest, p => foldl_perform_skip ha (foldl_perform_grows h id hrest) p
  | _, .blocks ha hrest, p =>
    (perform_grows h id ha p).trans (foldl_perform_grows h id hrest _)
  | _, .quote ha hi hz hrest, p => by
    obtain ⟨start, stop, calls, calls', hstart, hstop, hcalls, hcalls', hp⟩ :=
      foldl_perform_container ha hz (foldl_perform_grows h id hi) (foldl_perform_grows h id hrest) p
    exact ⟨_, .quote hstart hcalls hstop hcalls', hp⟩
  | _, .heading ha hi hz hrest, p => by
    obtain ⟨start, stop, calls, calls', hstart, hstop, hcalls, hcalls', hp⟩ :=
      foldl_perform_container ha hz (foldl_perform_grows h id hi) (foldl_perform_grows h id hrest) p
    exact ⟨_, .heading hstart hcalls hstop hcalls', hp⟩
  | _, .list ha hi hz hrest, p => by
    obtain ⟨start, stop, calls, calls', hstart, hstop, hcalls, hcalls', hp⟩ :=
      foldl_perform_container ha hz (foldl_perform_growsByItems h id hi)
        (foldl_perform_grows h id hrest) p
    exact ⟨_, .list hstart hcalls hstop hcalls', hp⟩

theorem foldl_perform_growsByItems (h : KeepsBrackets visit) (id : NodeId) :
    ∀ {actions : List Action}, BracketedItems Action.bracket actions → ∀ p : Pass Recording,
      GrowsByItems p (actions.foldl (perform setup visit id) p)
  | _, .nil, _ => .of_calls_eq .nil rfl
  | _, .skip ha hrest, p => foldl_perform_skip ha (foldl_perform_growsByItems h id hrest) p
  | _, .item ha hi hz hrest, p => by
    obtain ⟨start, stop, calls, calls', hstart, hstop, hcalls, hcalls', hp⟩ :=
      foldl_perform_container ha hz (foldl_perform_grows h id hi)
        (foldl_perform_growsByItems h id hrest) p
    exact ⟨_, .item hstart hcalls hstop hcalls', hp⟩

end

end Pass

/-- Whether the action lists of a composer are well-bracketed. -/
def Composer.Bracketed (composer : Composer) : Prop :=
  ∀ type actions, composer.actions type = some actions →
    MarkdownTree.Bracketed Action.bracket actions

theorem Composer.bracketed_none : Composer.none.Bracketed := by
  intro type actions h
  cases h

/-- **Rendering a node adds well-bracketed calls**, wherever the limit cuts the walk off. -/
theorem Pass.render_grows {doc : Document} {composer : Composer} (hcomposer : composer.Bracketed) :
    ∀ levels : Nat, KeepsBrackets (render ⟨doc, composer⟩ levels)
  | 0, id, p => report_grows p id .depthExceeded
  | levels + 1, id, p => by
    have h : KeepsBrackets (render ⟨doc, composer⟩ levels) := render_grows hcomposer levels
    have hdispatch : ∀ q : Pass Recording,
        GrowsByBlocks q (dispatch ⟨doc, composer⟩ (render ⟨doc, composer⟩ levels) id q) := by
      intro q
      rw [dispatch]
      cases hclaim : claim? ⟨doc, composer⟩ id with
      | none => exact defaultRule_grows h id q
      | some actions =>
        obtain ⟨type, -, hactions⟩ := Option.bind_eq_some_iff.mp hclaim
        exact foldl_perform_grows h id (hcomposer type actions hactions) _
    -- neither the depth nor the visits are calls
    obtain ⟨calls, hcalls, hq⟩ := hdispatch { p with depth := p.depth + 1 }
    exact ⟨calls, hcalls, hq⟩

/-- **A pass keeps its calls well-bracketed, also where a composer renders nodes again.** If the
brackets of every action list match, or there is no composer at all, then the brackets of all calls
of a pass match. A list that is rendered by its default rule has one item for each of its items,
counted from zero, wherever in the pass this happens. So the layout builder has nothing to
repair. -/
theorem run_bracketed (doc : Document) (composer : Composer) (hcomposer : composer.Bracketed)
    (maxDepth : Nat) (start : Option NodeId) :
    let setup : PassSetup := ⟨doc, composer⟩
    Bracketed Call.bracket (Pass.run setup maxDepth start ({} : Recording)).sink.calls ∧
      (∀ (levels : Nat) (id : NodeId) (p : Pass Recording) (kind : ListKind) (startIndex : Int)
          (items : List NodeId), doc.listing? id = some (kind, startIndex, items) →
        ∃ bodies, bodies.length = items.length ∧ (∀ body ∈ bodies, Bracketed Call.bracket body) ∧
          (Pass.defaultRule setup (Pass.render setup levels) id p).sink.calls = p.sink.calls ++
            .listStart kind startIndex :: (numberedItems 0 bodies ++ [.listEnd])) ∧
      (Rendering.ofPass (Pass.run setup maxDepth start ({} : LayoutBuilder))).warnings = [] := by
  intro setup
  have hcalls : Bracketed Call.bracket
      (Pass.run setup maxDepth start ({} : Recording)).sink.calls := by
    have h : Pass.KeepsBrackets (Pass.render setup maxDepth) := Pass.render_grows hcomposer maxDepth
    obtain ⟨calls, hcalls, hrun⟩ := Pass.renderAll_grows h start.toList { sink := {} }
    rw [Pass.run, hrun]
    exact hcalls
  refine ⟨hcalls, ?_, ?_⟩
  · intro levels id p kind startIndex items hlisting
    rw [Pass.defaultRule_of_listing? hlisting]
    exact Pass.renderList_grows setup (Pass.render_grows hcomposer levels) kind startIndex items p
  · obtain ⟨blocks, hparses⟩ := hcalls.exists_parses doc
    rw [Rendering.ofPass_run, hparses.ofCalls]

/-- A composer that puts a quote into an item of its own list, reports it in between, and renders
it again from inside of the item. The same document without a composer. -/
theorem run_bracketed_quote_again :
    let doc := ((((Builder.new.openNode (.block .blockQuote)).openNode
      (.block (.orderedList 3))).openNode (.block .listItem)).leaf
        (.block .thematicBreak)).document
    let composer : Composer := ⟨fun type => if type = .blockQuote then
      some [.emit (.listStart .unordered 8), .report .depthExceeded, .emit (.itemStart 5),
        .default, .self, .emit .itemEnd, .emit .listEnd] else none⟩
    composer.Bracketed ∧
      Bracketed Call.bracket (Pass.run ⟨doc, composer⟩ 3 (some 0) ({} : Recording)).sink.calls ∧
      doc.listing? 2 = some (.ordered, 2, [3]) ∧
      (∃ bodies, bodies.length = 1 ∧ (∀ body ∈ bodies, Bracketed Call.bracket body) ∧
        (Pass.defaultRule ⟨doc, composer⟩ (Pass.render ⟨doc, composer⟩ 1) 2
          { sink := ({} : Recording) }).sink.calls =
            .listStart .ordered 2 :: (numberedItems 0 bodies ++ [.listEnd])) ∧
      (Rendering.ofPass (Pass.run ⟨doc, composer⟩ 3 (some 0) ({} : LayoutBuilder))).warnings = [] ∧
      Composer.none.Bracketed ∧
      (Rendering.ofPass (Pass.run ⟨doc, .none⟩ 3 (some 0) ({} : LayoutBuilder))).warnings = [] := by
  intro doc composer
  have hcomposer : composer.Bracketed := by
    intro type actions h
    by_cases htype : type = .blockQuote
    · simp only [composer, if_pos htype] at h
      cases h
      have hbody : Bracketed Action.bracket [.default, .self] := .blocks rfl (.blocks rfl .nil)
      have hitem : BracketedItems Action.bracket
          (.emit (.itemStart 5) :: ([.default, .self] ++ .emit .itemEnd :: [])) :=
        .item rfl hbody rfl .nil
      have hlist : Bracketed Action.bracket (.emit (.listStart .unordered 8) ::
          ([.report .depthExceeded, .emit (.itemStart 5), .default, .self, .emit .itemEnd] ++
            .emit .listEnd :: [])) :=
        .list rfl (.skip rfl hitem) rfl .nil
      exact hlist
    · simp only [composer, if_neg htype] at h
      cases h
  have hlisting : doc.listing? 2 = some (.ordered, 2, [3]) := by decide +kernel
  obtain ⟨hcalls, hlists, hwarnings⟩ := run_bracketed doc composer hcomposer 3 (some 0)
  have hnone := (run_bracketed doc .none Composer.bracketed_none 3 (some 0)).2.2
  exact ⟨hcomposer, hcalls, hlisting, hlists 1 2 { sink := {} } _ _ _ hlisting, hwarnings,
    Composer.bracketed_none, hnone⟩

end MarkdownTree
