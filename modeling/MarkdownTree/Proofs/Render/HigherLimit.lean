import MarkdownTree.Document.Builder
import MarkdownTree.Proofs.Render.Trace

/-!
# Higher limits of nesting

With a higher limit a pass does what it did before, and more where it has stopped. No rule looks at
what the rendering of another node has put out, and no action does but the one that shows the number
of diagnostics. So the two passes can be compared node by node, with fewer levels left in the one
than in the other.

* `WithinBut`, `SameUnlessStopped` — how the two traces of a node compare.
* `trace_withinBut` — apart from the stops, nothing is lost.
* `trace_sameUnlessStopped` — without a stop nothing is added.
* `run_higher_limit` — the calls and the diagnostics of the two passes.
-/

namespace MarkdownTree

/-- Whether a node beyond the limit is stopped at. -/
def Observation.isStop : Observation → Bool
  | .stop _ _ => true
  | _ => false

/-! ## Traces without their stops -/

/-- Whether one trace is contained in another one, apart from its stops. -/
def WithinBut (os os' : List Observation) : Prop :=
  (os.filter fun o => !o.isStop).Sublist (os'.filter fun o => !o.isStop)

namespace WithinBut

variable {os os' os₁ os₁' : List Observation}

theorem refl (os : List Observation) : WithinBut os os :=
  List.Sublist.refl _

theorem append (h : WithinBut os os') (h₁ : WithinBut os₁ os₁') :
    WithinBut (os ++ os₁) (os' ++ os₁') := by
  rw [WithinBut, List.filter_append, List.filter_append]
  exact List.Sublist.append h h₁

theorem compatible : Compatible WithinBut where
  nil := refl []
  call c := refl [.call c]
  report id kind := refl [.report id kind]
  append := append

theorem filterMap_unstopped {α : Type} {f : Observation → Option α}
    (hf : ∀ id level, f (.stop id level) = none) (os : List Observation) :
    (os.filter fun o => !o.isStop).filterMap f = os.filterMap f := by
  rw [List.filterMap_filter]
  congr 1
  funext o
  cases o <;> simp [Observation.isStop, hf]

/-- What is read off a trace apart from its stops is contained in what is read off the other. -/
theorem filterMap (h : WithinBut os os') {α : Type} {f : Observation → Option α}
    (hf : ∀ id level, f (.stop id level) = none) :
    (os.filterMap f).Sublist (os'.filterMap f) := by
  rw [← filterMap_unstopped hf os, ← filterMap_unstopped hf os']
  exact List.Sublist.filterMap f h

end WithinBut

/-- **Apart from the stops, a node loses nothing by more levels.** -/
theorem trace_withinBut (setup : PassSetup) : ∀ {levels levels' : Nat}, levels ≤ levels' →
    ∀ (level : Nat) (id : NodeId),
      WithinBut (setup.trace levels level id) (setup.trace levels' level id)
  | 0, _, _, _, _ => List.nil_sublist _
  | levels + 1, levels' + 1, h, level, id => by
    have hvisit := trace_withinBut setup (Nat.le_of_succ_le_succ h) (level + 1)
    have hinside := WithinBut.compatible.inside hvisit setup level id
    exact (WithinBut.refl [.enter id level]).append (hinside.append (.refl [.leave]))

/-! ## Traces that do not stop -/

/-- Whether one trace is another one, unless it stops. -/
def SameUnlessStopped (os os' : List Observation) : Prop :=
  (∀ o ∈ os, o.isStop = false) → os = os'

namespace SameUnlessStopped

variable {os os' os₁ os₁' : List Observation}

theorem refl (os : List Observation) : SameUnlessStopped os os :=
  fun _ => rfl

theorem append (h : SameUnlessStopped os os') (h₁ : SameUnlessStopped os₁ os₁') :
    SameUnlessStopped (os ++ os₁) (os' ++ os₁') := by
  intro hall
  rw [List.forall_mem_append] at hall
  rw [h hall.1, h₁ hall.2]

theorem compatible : Compatible SameUnlessStopped where
  nil := refl []
  call c := refl [.call c]
  report id kind := refl [.report id kind]
  append := append

end SameUnlessStopped

/-- **Without a stop, a node gains nothing by more levels.** -/
theorem trace_sameUnlessStopped (setup : PassSetup) : ∀ {levels levels' : Nat}, levels ≤ levels' →
    ∀ (level : Nat) (id : NodeId),
      SameUnlessStopped (setup.trace levels level id) (setup.trace levels' level id)
  | 0, _, _, level, id => fun hall => nomatch hall (.stop id level) List.mem_cons_self
  | levels + 1, levels' + 1, h, level, id => by
    have hvisit := trace_sameUnlessStopped setup (Nat.le_of_succ_le_succ h) (level + 1)
    have hinside := SameUnlessStopped.compatible.inside hvisit setup level id
    exact (SameUnlessStopped.refl [.enter id level]).append (hinside.append (.refl [.leave]))

/-! ## Two passes -/

/-- **A higher limit only adds output.** Whatever a composer does, unless it asks how many
diagnostics there are: what a pass calls and reports, apart from the nodes that are beyond its
limit, a pass with a higher limit calls and reports in the same order. If no node is beyond the
limit, the two passes are the same. -/
theorem run_higher_limit (doc : Document) (composer : Composer) (hcomposer : composer.Uncounting)
    {maxDepth maxDepth' : Nat} (hle : maxDepth ≤ maxDepth') (start : Option NodeId) :
    let lower := Pass.run ⟨doc, composer⟩ maxDepth start ({} : Recording)
    let higher := Pass.run ⟨doc, composer⟩ maxDepth' start ({} : Recording)
    lower.sink.calls.Sublist higher.sink.calls ∧
      (lower.diagnostics.reverse.filter fun d => d.kind ≠ .depthExceeded).Sublist
        (higher.diagnostics.reverse.filter fun d => d.kind ≠ .depthExceeded) ∧
      ((∀ d ∈ lower.diagnostics, d.kind ≠ .depthExceeded) →
        higher.sink.calls = lower.sink.calls ∧ higher.diagnostics = lower.diagnostics) := by
  intro lower higher
  let setup : PassSetup := ⟨doc, composer⟩
  have hsetup : setup.composer.Uncounting := hcomposer
  have hwithin : WithinBut (setup.passTrace maxDepth start) (setup.passTrace maxDepth' start) :=
    WithinBut.compatible.flatMap fun id _ => trace_withinBut setup hle 1 id
  have hsame : SameUnlessStopped (setup.passTrace maxDepth start)
      (setup.passTrace maxDepth' start) :=
    SameUnlessStopped.compatible.flatMap fun id _ => trace_sameUnlessStopped setup hle 1 id
  have hlower := Pass.diagnostics_run hsetup maxDepth start ({} : Recording)
  refine ⟨?_, ?_, fun hnone => ?_⟩
  · rw [Pass.calls_run hsetup, Pass.calls_run hsetup]
    exact hwithin.filterMap fun _ _ => rfl
  · rw [hlower, Pass.diagnostics_run hsetup, List.filter_filterMap, List.filter_filterMap]
    exact hwithin.filterMap fun _ _ => rfl
  · have hstops : ∀ o ∈ setup.passTrace maxDepth start, o.isStop = false := by
      intro o ho
      cases o with
      | stop id level =>
        have hmem : Diagnostic.of doc id .depthExceeded ∈ lower.diagnostics.reverse := by
          rw [hlower]
          exact List.mem_filterMap.mpr ⟨_, ho, rfl⟩
        exact absurd rfl (hnone _ (List.mem_reverse.mp hmem))
      | _ => rfl
    have hpass : higher = lower := calc
      higher = (setup.passTrace maxDepth' start).foldl (Pass.observe setup) { sink := {} } :=
        Pass.run_eq_observe hsetup maxDepth' start ({} : Recording)
      _ = (setup.passTrace maxDepth start).foldl (Pass.observe setup) { sink := {} } := by
        rw [hsame hstops]
      _ = lower := (Pass.run_eq_observe hsetup maxDepth start ({} : Recording)).symm
    rw [hpass]
    exact ⟨rfl, rfl⟩

/-- A composer that shows the level of a quote, reports the quote and renders it by its default
rule. With three levels the pass stops at the break in the inner quote; from four levels on nothing
more is added. The same document without a composer. -/
theorem run_higher_limit_nested_quotes :
    let doc := (((Builder.new.openNode (.block .blockQuote)).openNode
      (.block .blockQuote)).leaf (.block .thematicBreak)).document
    let composer : Composer := ⟨fun type => if type = .blockQuote then
      some [.depth, .report .listItemOutsideList, .default] else none⟩
    let lower := Pass.run ⟨doc, composer⟩ 3 (some 0) ({} : Recording)
    let higher := Pass.run ⟨doc, composer⟩ 4 (some 0) ({} : Recording)
    let highest := Pass.run ⟨doc, composer⟩ 9 (some 0) ({} : Recording)
    composer.Uncounting ∧
      lower.sink.calls =
        [.run "2", .quoteStart, .run "3", .quoteStart, .quoteEnd, .quoteEnd] ∧
      lower.sink.calls.Sublist higher.sink.calls ∧
      (lower.diagnostics.reverse.filter fun d => d.kind ≠ .depthExceeded).Sublist
        (higher.diagnostics.reverse.filter fun d => d.kind ≠ .depthExceeded) ∧
      (∀ d ∈ higher.diagnostics, d.kind ≠ .depthExceeded) ∧
      highest.sink.calls = higher.sink.calls ∧ highest.diagnostics = higher.diagnostics ∧
      (Pass.run ⟨doc, .none⟩ 2 (some 0) ({} : Recording)).sink.calls.Sublist
        (Pass.run ⟨doc, .none⟩ 4 (some 0) ({} : Recording)).sink.calls := by
  intro doc composer lower higher highest
  have hcomposer : composer.Uncounting := by
    intro type actions h
    by_cases htype : type = .blockQuote
    · simp only [composer, if_pos htype] at h
      cases h
      decide
    · simp only [composer, if_neg htype] at h
      cases h
  have hnone : ∀ d ∈ higher.diagnostics, d.kind ≠ .depthExceeded := by decide +kernel
  have hlower : lower.sink.calls =
      [.run "2", .quoteStart, .run "3", .quoteStart, .quoteEnd, .quoteEnd] := by decide +kernel
  obtain ⟨hcalls, hdiagnostics, -⟩ :=
    run_higher_limit doc composer hcomposer (Nat.le_succ 3) (some 0)
  obtain ⟨-, -, hsame⟩ :=
    run_higher_limit doc composer hcomposer (show 4 ≤ 9 by decide) (some 0)
  obtain ⟨hplain, -⟩ :=
    run_higher_limit doc .none Composer.uncounting_none (show 2 ≤ 4 by decide) (some 0)
  exact ⟨hcomposer, hlower, hcalls, hdiagnostics, hnone, (hsame hnone).1, (hsame hnone).2, hplain⟩

end MarkdownTree
