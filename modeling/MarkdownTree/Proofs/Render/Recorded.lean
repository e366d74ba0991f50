import MarkdownTree.Log
import MarkdownTree.Render.Layout

/-!
# Passes and their recordings

A pass never looks at its sink. So a pass into any sink does what the same pass does when it only
records its calls, and leaves the sink in the state that the recorded calls lead to.

* `Pass.replay` — a recorded pass with its calls made on a given sink.
* `render_replay` — rendering commutes with replaying, whatever the composer does.
* `run_eq_replay` — a whole pass is the replay of its recording.
* `ofPass_run` — so a pass into a layout builder gives the layout of the recorded calls.
* `run_layout_of_recording` — what a pass reports and which nodes it gives to the composer do not
  depend on the sink, and the recorded calls lead to the same layout with the same log.
-/

namespace MarkdownTree

namespace Recording

@[simp] theorem calls_emit (doc : Document) (r : Recording) (call : Call) :
    (Sink.emit doc r call : Recording).calls = r.calls ++ [call] := by
  show (call :: r.newestFirst).reverse = r.newestFirst.reverse ++ [call]
  rw [List.reverse_cons]

theorem calls_foldl_emit (doc : Document) : ∀ (calls : List Call) (r : Recording),
    (calls.foldl (Sink.emit doc) r).calls = r.calls ++ calls
  | [], r => (List.append_nil r.calls).symm
  | call :: calls, r => by
    rw [List.foldl_cons, calls_foldl_emit doc calls, calls_emit, List.append_assoc,
      List.singleton_append]

end Recording

namespace Pass

variable {σ : Type} [Sink σ] {setup : PassSetup} {sink : σ}

/-- A recorded pass with its calls made on a sink. -/
def replay (doc : Document) (sink : σ) (p : Pass Recording) : Pass σ where
  sink := p.sink.calls.foldl (Sink.emit doc) sink
  diagnostics := p.diagnostics
  visits := p.visits
  depth := p.depth

/-- Whether a way to go on with the walk commutes with replaying. -/
def Replays (doc : Document) (sink : σ) (visitSink : NodeId → Pass σ → Pass σ)
    (visit : NodeId → Pass Recording → Pass Recording) : Prop :=
  ∀ (id : NodeId) (p : Pass Recording),
    visitSink id (p.replay doc sink) = (visit id p).replay doc sink

/-! ## One step -/

theorem emit_replay (p : Pass Recording) (call : Call) :
    (p.replay setup.doc sink).emit setup call = (p.emit setup call).replay setup.doc sink := by
  simp [emit, replay]

theorem report_replay (p : Pass Recording) (id : NodeId) (kind : DiagnosticKind) :
    (p.replay setup.doc sink).report setup id kind =
      (p.report setup id kind).replay setup.doc sink := rfl

/-! ## The walk -/

section

variable {visitSink : NodeId → Pass σ → Pass σ} {visit : NodeId → Pass Recording → Pass Recording}

theorem renderAll_replay (h : Replays setup.doc sink visitSink visit) :
    ∀ (ids : List NodeId) (p : Pass Recording),
      renderAll visitSink ids (p.replay setup.doc sink) =
        (renderAll visit ids p).replay setup.doc sink
  | [], _ => rfl
  | id :: ids, p => by
    have ih := renderAll_replay h ids (visit id p)
    rw [renderAll] at ih ⊢
    rw [List.foldl_cons, h, ih]
    rfl

theorem renderItems_replay (h : Replays setup.doc sink visitSink visit) :
    ∀ (ids : List NodeId) (index : Nat) (p : Pass Recording),
      renderItems setup visitSink index ids (p.replay setup.doc sink) =
        (renderItems setup visit index ids p).replay setup.doc sink
  | [], _, _ => rfl
  | id :: ids, index, p => by
    rw [renderItems, renderItems, emit_replay]
    cases setup.doc.children id with
    | nil => simp only [emit_replay, renderItems_replay h ids]
    | cons child children =>
      simp only [renderAll_replay h, emit_replay, renderItems_replay h ids]

theorem renderList_replay (h : Replays setup.doc sink visitSink visit)
    (kind : ListKind) (start : Int) (items : List NodeId) (p : Pass Recording) :
    renderList setup visitSink kind start items (p.replay setup.doc sink) =
      (renderList setup visit kind start items p).replay setup.doc sink := by
  rw [renderList, renderList, emit_replay, renderItems_replay h, emit_replay]

theorem blockRule_replay (h : Replays setup.doc sink visitSink visit)
    (id : NodeId) (p : Pass Recording) (b : Block) :
    blockRule setup visitSink id (p.replay setup.doc sink) b =
      (blockRule setup visit id p b).replay setup.doc sink := by
  cases b with
  | document => exact renderAll_replay h _ p
  | blockQuote => simp only [blockRule, emit_replay, renderAll_replay h]
  | unorderedList => exact renderList_replay h _ _ _ p
  | orderedList start => exact renderList_replay h _ _ _ p
  | heading level => simp only [blockRule, emit_replay]
  | footReferenceDefinition label => simp only [blockRule, emit_replay, renderAll_replay h]
  | linkReferenceDefinition label destination title => rfl
  | listItem => rfl
  | tableHeader => rfl
  | tableBody => rfl
  | tableRow => rfl
  | tableCell => rfl
  | _ => exact emit_replay p _

theorem defaultRule_replay (h : Replays setup.doc sink visitSink visit)
    (id : NodeId) (p : Pass Recording) :
    defaultRule setup visitSink id (p.replay setup.doc sink) =
      (defaultRule setup visit id p).replay setup.doc sink := by
  rw [defaultRule, defaultRule]
  cases setup.doc.kind id with
  | block b => exact blockRule_replay h id p b
  | inline i =>
    cases i with
    | text literal => exact emit_replay (p.report setup id .textOutsideBlock) _
    | _ => rfl

/-- Whatever an action reads of the pass is the same in the recording. -/
theorem perform_replay (h : Replays setup.doc sink visitSink visit)
    (id : NodeId) (p : Pass Recording) (action : Action) :
    perform setup visitSink id (p.replay setup.doc sink) action =
      (perform setup visit id p action).replay setup.doc sink := by
  cases action with
  | children => exact renderAll_replay h _ p
  | default => exact defaultRule_replay h id p
  | self => exact h id p
  | firstChild => exact renderAll_replay h _ p
  | nextSibling => exact renderAll_replay h _ p
  | child index => exact renderAll_replay h _ p
  | grandchildren =>
    rw [perform, perform]
    induction setup.doc.children id generalizing p with
    | nil => rfl
    | cons c cs ih => rw [List.foldl_cons, List.foldl_cons, renderAll_replay h, ih]
  | blockChildren =>
    rw [perform, perform]
    by_cases hk : (setup.doc.kind id).acceptsInline = true
    · rw [if_pos hk, if_pos hk]
    · rw [if_neg hk, if_neg hk, renderAll_replay h]
  | absent => rfl
  | report kind => exact report_replay p id kind
  | depth => exact emit_replay p _
  | diagnosticCount => exact emit_replay p _
  | text fadeOut => exact emit_replay p _
  | table => exact emit_replay p _
  | emit call => exact emit_replay p call

theorem foldl_perform_replay (h : Replays setup.doc sink visitSink visit)
    (id : NodeId) : ∀ (actions : List Action) (p : Pass Recording),
      actions.foldl (perform setup visitSink id) (p.replay setup.doc sink) =
        (actions.foldl (perform setup visit id) p).replay setup.doc sink
  | [], _ => rfl
  | action :: actions, p => by
    rw [List.foldl_cons, List.foldl_cons, perform_replay h, foldl_perform_replay h id actions]

end

/-- **Rendering a node commutes with replaying.** -/
theorem render_replay : ∀ levels : Nat,
    Replays setup.doc sink (render setup levels) (render setup levels)
  | 0, _, _ => rfl
  | levels + 1, id, p => by
    have hdispatch : ∀ q : Pass Recording,
        dispatch setup (render setup levels) id (q.replay setup.doc sink) =
          (dispatch setup (render setup levels) id q).replay setup.doc sink := by
      intro q
      rw [dispatch, dispatch]
      cases claim? setup id with
      | none => exact defaultRule_replay (render_replay levels) id q
      | some actions =>
        exact foldl_perform_replay (render_replay levels) id actions
          { q with visits := (id, q.depth) :: q.visits }
    have h := hdispatch { p with depth := p.depth + 1 }
    rw [render, render]
    exact congrArg (fun q : Pass σ => { q with depth := q.depth - 1 }) h

/-- **A pass is the replay of its recording.** -/
theorem run_eq_replay (setup : PassSetup) (maxDepth : Nat) (start : Option NodeId) (sink : σ) :
    run setup maxDepth start sink =
      (run setup maxDepth start ({} : Recording)).replay setup.doc sink :=
  renderAll_replay (render_replay maxDepth) start.toList { sink := {} }

end Pass

/-- What a pass into a layout builder leaves is what the recorded calls make of a fresh one. -/
theorem Rendering.ofPass_run (setup : PassSetup) (maxDepth : Nat) (start : Option NodeId) :
    let recorded := Pass.run setup maxDepth start ({} : Recording)
    let b := LayoutBuilder.ofCalls setup.doc recorded.sink.calls
    Rendering.ofPass (Pass.run setup maxDepth start ({} : LayoutBuilder)) =
      ⟨b.layout, recorded.diagnostics.reverse, b.warnings⟩ := by
  intro recorded b
  rw [Pass.run_eq_replay setup maxDepth start ({} : LayoutBuilder)]
  rfl

/-- **A pass is independent of its sink.** Whatever the document and the composer are, a pass into
any sink reports the same and gives the same nodes to the composer, at the same depth, as a pass
that only records its calls, and it leaves the sink as these calls do, made one by one. So a fresh
layout builder that takes in the recorded calls, and is finished then, has the layout and the log
that a pass into a builder leaves. -/
theorem run_layout_of_recording (setup : PassSetup) (maxDepth : Nat) (start : Option NodeId) :
    let recorded := Pass.run setup maxDepth start ({} : Recording)
    let direct := Pass.run setup maxDepth start ({} : LayoutBuilder)
    let fed := recorded.sink.calls.foldl (LayoutBuilder.emit setup.doc) ({} : LayoutBuilder)
    (∀ (σ : Type) [Sink σ] (sink : σ),
      (Pass.run setup maxDepth start sink).diagnostics = recorded.diagnostics ∧
        (Pass.run setup maxDepth start sink).visits = recorded.visits ∧
        (Pass.run setup maxDepth start sink).sink =
          recorded.sink.calls.foldl (Sink.emit setup.doc) sink) ∧
      direct.diagnostics.reverse = recorded.diagnostics.reverse ∧
      direct.sink.finish.layout = fed.finish.layout ∧
      direct.sink.finish.warnings.map LayoutWarning.event =
        fed.finish.warnings.map LayoutWarning.event := by
  intro recorded direct fed
  have hany : ∀ (σ : Type) [Sink σ] (sink : σ),
      (Pass.run setup maxDepth start sink).diagnostics = recorded.diagnostics ∧
        (Pass.run setup maxDepth start sink).visits = recorded.visits ∧
        (Pass.run setup maxDepth start sink).sink =
          recorded.sink.calls.foldl (Sink.emit setup.doc) sink := by
    intro σ _ sink
    rw [Pass.run_eq_replay setup maxDepth start sink]
    exact ⟨rfl, rfl, rfl⟩
  obtain ⟨hdiagnostics, -, hsink⟩ := hany LayoutBuilder {}
  have hfed : direct.sink = fed := hsink
  have hreported : direct.diagnostics = recorded.diagnostics := hdiagnostics
  rw [hreported, hfed]
  exact ⟨hany, rfl, rfl, rfl⟩

/-- A composer that shows the number of diagnostics before and after it reports one, and then ends a
quote that is not open. The recording has all of this, and the builder repairs it. -/
example :
    let setup : PassSetup := ⟨.empty, ⟨fun _ => some
      [.diagnosticCount, .report .textOutsideBlock, .diagnosticCount, .emit .quoteEnd]⟩⟩
    let recorded := Pass.run setup 3 (some 0) ({} : Recording)
    let direct := Pass.run setup 3 (some 0) ({} : LayoutBuilder)
    recorded.sink.calls = [.run "0", .run "1", .quoteEnd] ∧
      direct.sink.finish.warnings = [.unbalancedEnd .quote none] := by
  decide +kernel

end MarkdownTree
