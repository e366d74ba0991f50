import MarkdownTree.Document.Builder
import MarkdownTree.Proofs.Render.Trace

/-!
# Composers that do nothing

A composer that claims some block types and does nothing with the claimed nodes leaves out all that
happens while these nodes are rendered, and nothing else: a pass without a composer and a pass with
such a composer go through the same trace outside of the claimed nodes.

* `outside` — a trace without what happens inside of some nodes.
* `outside_passTrace` — this is the trace of a composer that does nothing with these nodes.
* `run_silent` — what a pass with such a composer puts out.
-/

namespace MarkdownTree

/-- The composer that claims some block types and does nothing with them. -/
def Composer.silent (claims : BlockType → Bool) : Composer :=
  .claiming claims []

/-- A trace without what happens between entering a chosen node and returning from it. The number
counts the nodes that have been entered and not been returned from, from a chosen one on. -/
def outside (chosen : NodeId → Bool) : Nat → List Observation → List Observation
  | _, [] => []
  | 0, o :: os =>
    match o with
    | .enter id _ => o :: outside chosen (if chosen id then 1 else 0) os
    | _ => o :: outside chosen 0 os
  | within + 1, o :: os =>
    match o with
    | .enter _ _ => outside chosen (within + 2) os
    | .leave => if within = 0 then .leave :: outside chosen 0 os else outside chosen within os
    | _ => outside chosen (within + 1) os

/-! ## Inside of a chosen node -/

/-- Whether a trace is left out inside of a chosen node. -/
def LeftOut (chosen : NodeId → Bool) (os : List Observation) : Prop :=
  ∀ (within : Nat) (rest : List Observation),
    outside chosen (within + 1) (os ++ rest) = outside chosen (within + 1) rest

theorem LeftOut.compatible (chosen : NodeId → Bool) : Compatible fun os _ => LeftOut chosen os where
  nil _ _ := rfl
  call _ _ _ := rfl
  report _ _ _ _ := rfl
  append h h' within rest := by rw [List.append_assoc, h, h']

theorem LeftOut.inside {chosen : NodeId → Bool} {visit : NodeId → List Observation}
    (h : ∀ c, LeftOut chosen (visit c)) (setup : PassSetup) (level : Nat) (id : NodeId) :
    LeftOut chosen (setup.inside visit level id) :=
  @Compatible.inside _ visit visit (compatible chosen) h setup level id

/-- A node with all that happens in it is left out inside of a chosen one. -/
theorem leftOut_trace (chosen : NodeId → Bool) (setup : PassSetup) :
    ∀ (levels level : Nat) (id : NodeId), LeftOut chosen (setup.trace levels level id)
  | 0, _, _ => fun _ _ => rfl
  | levels + 1, level, id => by
    let visit := setup.trace levels (level + 1)
    have hvisit : ∀ c, LeftOut chosen (visit c) := leftOut_trace chosen setup levels (level + 1)
    have hinside : LeftOut chosen (setup.inside visit level id) := .inside hvisit setup level id
    intro within rest
    calc outside chosen (within + 1) (setup.trace (levels + 1) level id ++ rest)
      _ = outside chosen (within + 2) (setup.inside visit level id ++ .leave :: rest) := by
        rw [PassSetup.trace, List.cons_append, List.append_assoc]
        rfl
      _ = outside chosen (within + 2) (.leave :: rest) := hinside (within + 1) (.leave :: rest)
      _ = outside chosen (within + 1) rest := rfl

/-! ## Outside of the chosen nodes -/

/-- Whether of one trace another one is left outside of the chosen nodes. -/
def Leaves (chosen : NodeId → Bool) (os os' : List Observation) : Prop :=
  ∀ rest : List Observation, outside chosen 0 (os ++ rest) = os' ++ outside chosen 0 rest

theorem Leaves.compatible (chosen : NodeId → Bool) : Compatible (Leaves chosen) where
  nil _ := rfl
  call _ _ := rfl
  report _ _ _ := rfl
  append h h' rest := by rw [List.append_assoc, h, h', List.append_assoc]

/-- A chosen node is entered and returned from, and nothing is left in between. -/
theorem Leaves.chosen {chosen : NodeId → Bool} {id : NodeId} (hid : chosen id = true)
    {os : List Observation} (h : LeftOut chosen os) (level : Nat) :
    Leaves chosen (.enter id level :: (os ++ [.leave])) [.enter id level, .leave] := by
  intro rest
  calc outside chosen 0 (.enter id level :: (os ++ [.leave]) ++ rest)
    _ = .enter id level :: outside chosen 1 (os ++ .leave :: rest) := by
      simp [outside, hid]
    _ = .enter id level :: outside chosen 1 (.leave :: rest) := by rw [h 0]
    _ = .enter id level :: .leave :: outside chosen 0 rest := rfl

/-- In a node that is not chosen is left what is left of the parts. -/
theorem Leaves.not_chosen {chosen : NodeId → Bool} {id : NodeId} (hid : ¬ chosen id = true)
    {os os' : List Observation} (h : Leaves chosen os os') (level : Nat) :
    Leaves chosen (.enter id level :: (os ++ [.leave])) (.enter id level :: (os' ++ [.leave])) := by
  intro rest
  calc outside chosen 0 (.enter id level :: (os ++ [.leave]) ++ rest)
    _ = .enter id level :: outside chosen 0 (os ++ .leave :: rest) := by
      simp [outside, hid]
    _ = .enter id level :: (os' ++ .leave :: outside chosen 0 rest) := by
      rw [h]
      rfl
    _ = .enter id level :: (os' ++ [.leave]) ++ outside chosen 0 rest := by simp

/-- **Outside of the claimed nodes, the trace of a node is what happens if nothing is done with the
claimed nodes.** -/
theorem leaves_trace (doc : Document) (claims : BlockType → Bool) :
    ∀ (levels level : Nat) (id : NodeId), Leaves (doc.hasType claims)
      (PassSetup.trace ⟨doc, .none⟩ levels level id)
      (PassSetup.trace ⟨doc, .silent claims⟩ levels level id)
  | 0, _, _ => fun _ => rfl
  | levels + 1, level, id => by
    have hinner := leaves_trace doc claims levels (level + 1)
    rw [PassSetup.trace, PassSetup.trace, inside_none]
    by_cases hclaimed : doc.hasType claims id = true
    · have hrule : LeftOut (doc.hasType claims)
          (doc.ruleTrace (PassSetup.trace ⟨doc, .none⟩ levels (level + 1)) id) := by
        rw [← inside_none doc _ level id]
        exact .inside (leftOut_trace _ ⟨doc, .none⟩ levels (level + 1)) _ level id
      rw [Composer.silent, inside_claiming_of_hasType hclaimed]
      exact .chosen hclaimed hrule level
    · rw [Composer.silent, inside_claiming_of_not_hasType hclaimed]
      exact .not_chosen hclaimed ((Leaves.compatible _).ruleTrace hinner doc id) level

theorem outside_passTrace (doc : Document) (claims : BlockType → Bool) (maxDepth : Nat)
    (start : Option NodeId) :
    outside (doc.hasType claims) 0 (PassSetup.passTrace ⟨doc, .none⟩ maxDepth start) =
      PassSetup.passTrace ⟨doc, .silent claims⟩ maxDepth start := by
  have hleaves : Leaves (doc.hasType claims) (PassSetup.passTrace ⟨doc, .none⟩ maxDepth start)
      (PassSetup.passTrace ⟨doc, .silent claims⟩ maxDepth start) :=
    (Leaves.compatible _).flatMap fun id _ => leaves_trace doc claims maxDepth 1 id
  have h := hleaves []
  rwa [List.append_nil, outside, List.append_nil] at h

/-! ## The pass -/

theorem Composer.uncounting_silent (claims : BlockType → Bool) : (silent claims).Uncounting :=
  uncounting_claiming claims (by decide)

/-- **A composer that does nothing leaves out the claimed nodes with what is in them, and nothing
else.** A pass without a composer goes through a trace, and a pass with such a composer through what
is left of it outside of the claimed nodes. Calls and diagnostics are those of the traces. So items
are counted as before, and a node beyond the limit is still reported. -/
theorem run_silent (doc : Document) (claims : BlockType → Bool) (maxDepth : Nat)
    (start : Option NodeId) :
    let plain : PassSetup := ⟨doc, .none⟩
    let silent : PassSetup := ⟨doc, .silent claims⟩
    let p := Pass.run plain maxDepth start ({} : Recording)
    let q := Pass.run silent maxDepth start ({} : Recording)
    ∃ os left : List Observation, left = outside (doc.hasType claims) 0 os ∧
      Agenda.Runs plain maxDepth (.begin start {}) os ⟨[], p⟩ ∧
      Agenda.Runs silent maxDepth (.begin start {}) left ⟨[], q⟩ ∧
      p.sink.calls = os.filterMap Observation.call? ∧
      q.sink.calls = left.filterMap Observation.call? ∧
      p.diagnostics.reverse = os.filterMap (Observation.diagnostic? doc) ∧
      q.diagnostics.reverse = left.filterMap (Observation.diagnostic? doc) ∧
      (∀ id level, (Agenda.begin start ({} : Recording)).Reaches silent maxDepth id level →
        maxDepth < level → .of doc id .depthExceeded ∈ q.diagnostics) := by
  intro plain silent p q
  have hplain : plain.composer.Uncounting := Composer.uncounting_none
  have hsilent : silent.composer.Uncounting := Composer.uncounting_silent claims
  have hruns := runs_run hsilent maxDepth start ({} : Recording)
  have hdiagnostics := Pass.diagnostics_run hsilent maxDepth start ({} : Recording)
  refine ⟨plain.passTrace maxDepth start, silent.passTrace maxDepth start,
    (outside_passTrace doc claims maxDepth start).symm,
    runs_run hplain maxDepth start ({} : Recording), hruns,
    Pass.calls_run hplain maxDepth start, Pass.calls_run hsilent maxDepth start,
    Pass.diagnostics_run hplain maxDepth start ({} : Recording), hdiagnostics, ?_⟩
  intro id level hreaches hlevel
  have hstop : .stop id level ∈ silent.passTrace maxDepth start :=
    (hruns.mem_stop_iff rfl).mpr ⟨hreaches, hlevel⟩
  rw [← List.mem_reverse, hdiagnostics]
  exact List.mem_filterMap.mpr ⟨_, hstop, rfl⟩

/-- A list whose first item holds a quote, with a composer that does nothing with quotes. The items
are counted as before. With two levels the quote is beyond the limit, and this is reported. -/
theorem run_silent_quote_in_item :
    let doc := (((((Builder.new.openNode (.block .unorderedList)).openNode
      (.block .listItem)).openNode (.block .blockQuote)).leaf
        (.block .thematicBreak)).close.close.leaf (.block .listItem)).document
    let silent : PassSetup := ⟨doc, .silent fun type => type = .blockQuote⟩
    (Agenda.begin (some 0) ({} : Recording)).Reaches silent 2 3 3 ∧
      .of doc 3 .depthExceeded ∈ (Pass.run silent 2 (some 0) ({} : Recording)).diagnostics ∧
      (Pass.run silent 9 (some 0) ({} : Recording)).sink.calls =
        [.listStart .unordered 0, .itemStart 0, .itemEnd, .itemStart 1, .empty, .itemEnd,
          .listEnd] := by
  intro doc silent
  have hsilent : silent.composer.Uncounting := Composer.uncounting_silent _
  have hstop : .stop 3 3 ∈ silent.passTrace 2 (some 0) := by decide +kernel
  have hreaches : (Agenda.begin (some 0) ({} : Recording)).Reaches silent 2 3 3 :=
    (((runs_run hsilent 2 (some 0) ({} : Recording)).mem_stop_iff rfl).mp hstop).1
  obtain ⟨os, left, -, -, -, -, -, -, -, hreported⟩ :=
    run_silent doc (fun type => type = .blockQuote) 2 (some 0)
  exact ⟨hreaches, hreported 3 3 hreaches (by decide), by decide +kernel⟩

end MarkdownTree
