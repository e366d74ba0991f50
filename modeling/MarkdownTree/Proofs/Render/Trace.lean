import MarkdownTree.Proofs.Render.Observation
import MarkdownTree.Proofs.Render.Recorded

/-!
# The trace of a pass

What can be observed of a pass can be computed by recursion on the levels left, unless the composer
asks how many diagnostics there are: then what it does at a node is the same whatever was done
before.

* `PassSetup.trace` — what is observed while a node is rendered.
* `Composer.Uncounting`, `Composer.claiming` — composers that do not ask how many diagnostics there
  are, and those that do the same with every node of some block types.
* `runs_run` — a pass runs from its beginning to its end with the observations of its trace.
* `Compatible` — relations between traces that are kept when traces are put together.
-/

namespace MarkdownTree

/-! ## The trace of a node -/

/-- What happens in a task that makes a call, reports a node or renders it. `visit` is what happens
while a node is rendered. -/
def Task.trace (visit : NodeId → List Observation) : Task → List Observation
  | .render id => visit id
  | .emit call => [.call call]
  | .report id kind => [.report id kind]
  | .rule _ | .perform _ _ | .leave => []

/-- What happens when the default rule is applied to a node. -/
def Document.ruleTrace (doc : Document) (visit : NodeId → List Observation) (id : NodeId) :
    List Observation :=
  (doc.ruleTasks id).flatMap (Task.trace visit)

/-- What happens in a task that is done inside of a node, or in one that it consists of. -/
def Document.taskTrace (doc : Document) (visit : NodeId → List Observation) :
    Task → List Observation
  | .rule id => doc.ruleTrace visit id
  | t => t.trace visit

/-- What happens in an action on a node of a level. -/
def Document.actionTrace (doc : Document) (visit : NodeId → List Observation) (id : NodeId)
    (level : Nat) (action : Action) : List Observation :=
  (Task.ofAction doc id level 0 action).flatMap (doc.taskTrace visit)

namespace PassSetup

/-- What a pass does between entering a node and returning from it. -/
def insideTasks (setup : PassSetup) (id : NodeId) : List Task :=
  match Pass.claim? setup id with
  | some actions => actions.map (.perform id)
  | none => [.rule id]

/-- What happens between entering a node of a level and returning from it. -/
def inside (setup : PassSetup) (visit : NodeId → List Observation) (level : Nat) (id : NodeId) :
    List Observation :=
  match Pass.claim? setup id with
  | some actions => actions.flatMap (setup.doc.actionTrace visit id level)
  | none => setup.doc.ruleTrace visit id

/-- What happens while a node of a level is rendered, with some levels left. -/
def trace (setup : PassSetup) : Nat → Nat → NodeId → List Observation
  | 0, level, id => [.stop id level]
  | levels + 1, level, id =>
    .enter id level :: (setup.inside (setup.trace levels (level + 1)) level id ++ [.leave])

/-- What happens in a pass. -/
def passTrace (setup : PassSetup) (maxDepth : Nat) (start : Option NodeId) : List Observation :=
  start.toList.flatMap (setup.trace maxDepth 1)

end PassSetup

/-- Whether no action of a composer asks how many diagnostics there are. -/
def Composer.Uncounting (composer : Composer) : Prop :=
  ∀ type actions, composer.actions type = some actions → .diagnosticCount ∉ actions

theorem Composer.uncounting_none : Composer.none.Uncounting := by
  intro type actions h
  cases h

/-- The composer that claims some block types and does the same with every claimed node. -/
def Composer.claiming (claims : BlockType → Bool) (actions : List Action) : Composer :=
  ⟨fun type => if claims type then some actions else Option.none⟩

theorem Composer.uncounting_claiming (claims : BlockType → Bool) {actions : List Action}
    (h : .diagnosticCount ∉ actions) : (claiming claims actions).Uncounting := by
  intro type actions' h'
  by_cases hclaims : claims type = true
  · simp only [claiming, if_pos hclaims] at h'
    cases h'
    exact h
  · simp only [claiming, if_neg hclaims] at h'
    cases h'

/-- Whether the block type of a node is among some. -/
def Document.hasType (doc : Document) (types : BlockType → Bool) (id : NodeId) : Bool :=
  (doc.kind id).blockType?.any types

theorem claim?_claiming (doc : Document) (claims : BlockType → Bool) (actions : List Action)
    (id : NodeId) : Pass.claim? ⟨doc, .claiming claims actions⟩ id =
      if doc.hasType claims id then some actions else none := by
  rw [Pass.claim?, Document.hasType]
  cases (doc.kind id).blockType? <;> rfl

theorem claim?_none (doc : Document) (id : NodeId) : Pass.claim? ⟨doc, .none⟩ id = none := by
  rw [Pass.claim?]
  cases (doc.kind id).blockType? <;> rfl

theorem inside_none (doc : Document) (visit : NodeId → List Observation) (level : Nat)
    (id : NodeId) : PassSetup.inside ⟨doc, .none⟩ visit level id = doc.ruleTrace visit id := by
  rw [PassSetup.inside, claim?_none]

theorem inside_claiming_of_hasType {doc : Document} {claims : BlockType → Bool} {id : NodeId}
    (h : doc.hasType claims id = true) (actions : List Action) (visit : NodeId → List Observation)
    (level : Nat) : PassSetup.inside ⟨doc, .claiming claims actions⟩ visit level id =
      actions.flatMap (doc.actionTrace visit id level) := by
  rw [PassSetup.inside, claim?_claiming, if_pos h]

theorem inside_claiming_of_not_hasType {doc : Document} {claims : BlockType → Bool} {id : NodeId}
    (h : ¬ doc.hasType claims id = true) (actions : List Action)
    (visit : NodeId → List Observation) (level : Nat) :
    PassSetup.inside ⟨doc, .claiming claims actions⟩ visit level id = doc.ruleTrace visit id := by
  rw [PassSetup.inside, claim?_claiming, if_neg h]

/-- An action that does not ask for it has the same tasks whatever the number of diagnostics. -/
theorem Task.ofAction_count_eq {doc : Document} {id : NodeId} {depth : Nat} {action : Action}
    (h : action ≠ .diagnosticCount) (count : Nat) :
    ofAction doc id depth count action = ofAction doc id depth 0 action := by
  cases action with
  | diagnosticCount => exact absurd rfl h
  | _ => rfl

section

variable (σ : Type) [Sink σ]

/-- Whether some tasks that are begun at a depth are all done in the end, with the given things
happening, and leave the depth as they found it. -/
def Happens (setup : PassSetup) (maxDepth depth : Nat) (tasks : List Task)
    (os : List Observation) : Prop :=
  ∀ p : Pass σ, p.depth = depth →
    ∃ q : Pass σ, q.depth = depth ∧ Agenda.Runs setup maxDepth ⟨tasks, p⟩ os ⟨[], q⟩

end

section

variable {σ : Type} [Sink σ] {setup : PassSetup} {maxDepth depth : Nat}

namespace Happens

variable {tasks tasks' : List Task} {t : Task} {os os' : List Observation}

theorem nil : Happens σ setup maxDepth depth [] [] :=
  fun p hp => ⟨p, hp, .refl _⟩

theorem append (h : Happens σ setup maxDepth depth tasks os)
    (h' : Happens σ setup maxDepth depth tasks' os') :
    Happens σ setup maxDepth depth (tasks ++ tasks') (os ++ os') := by
  intro p hp
  obtain ⟨q, hq, hruns⟩ := h p hp
  obtain ⟨r, hr, hruns'⟩ := h' q hq
  exact ⟨r, hr, (hruns.append tasks').trans hruns'⟩

/-- Tasks one after the other. -/
theorem map {α : Type} {f : α → Task} {g : α → List Observation} : ∀ {l : List α},
    (∀ a ∈ l, Happens σ setup maxDepth depth [f a] (g a)) →
      Happens σ setup maxDepth depth (l.map f) (l.flatMap g)
  | [], _ => nil
  | a :: l, h => by
    rw [List.forall_mem_cons] at h
    exact h.1.append (map h.2)

theorem flatMap {g : Task → List Observation}
    (h : ∀ t ∈ tasks, Happens σ setup maxDepth depth [t] (g t)) :
    Happens σ setup maxDepth depth tasks (tasks.flatMap g) := by
  have hmap : Happens σ setup maxDepth depth (tasks.map id) (tasks.flatMap g) := map h
  rwa [List.map_id] at hmap

/-- In a task happens what happens in the tasks that it consists of. -/
theorem of_unfold (h : Happens σ setup maxDepth depth tasks os)
    (hunfold : ∀ p : Pass σ, p.depth = depth → t.unfold setup maxDepth p = (tasks, p))
    (hobserved : t.observation? maxDepth depth = none) :
    Happens σ setup maxDepth depth [t] os := by
  intro p hp
  obtain ⟨q, hq, hruns⟩ := h p hp
  refine ⟨q, hq, ?_⟩
  have hnext : Agenda.next setup maxDepth ⟨[t], p⟩ = some ⟨tasks, p⟩ := by
    rw [Agenda.next_cons, hunfold p hp, List.append_nil]
  have hsilent : Agenda.observation? maxDepth ⟨[t], p⟩ = none := by
    show t.observation? maxDepth p.depth = none
    rw [hp, hobserved]
  have hruns := Agenda.Runs.step hnext hruns
  rwa [hsilent] at hruns

/-- A task that is done in one step. -/
theorem single (f : Pass σ → Pass σ) (hdepth : ∀ p, (f p).depth = p.depth)
    (hunfold : ∀ p, p.depth = depth → t.unfold setup maxDepth p = ([], f p)) :
    Happens σ setup maxDepth depth [t] (t.observation? maxDepth depth).toList := by
  intro p hp
  refine ⟨f p, (hdepth p).trans hp, ?_⟩
  have hnext : Agenda.next setup maxDepth ⟨[t], p⟩ = some ⟨[], f p⟩ := by
    rw [Agenda.next_cons, hunfold p hp, List.append_nil]
  rw [← hp]
  exact .single hnext

end Happens

/-- A node beyond the limit is stopped at. -/
theorem happens_stop (h : maxDepth ≤ depth) (id : NodeId) :
    Happens σ setup maxDepth depth [.render id] [.stop id (depth + 1)] := by
  have hsingle : Happens σ setup maxDepth depth [.render id]
      ((Task.render id).observation? maxDepth depth).toList := by
    refine .single (fun p => p.report setup id .depthExceeded) (fun _ => rfl) fun p hp => ?_
    rw [Task.unfold, if_pos (hp ▸ h)]
  rwa [Task.observation?, if_pos h] at hsingle

section

variable {visit : NodeId → List Observation}
  (hvisit : ∀ id, Happens σ setup maxDepth depth [.render id] (visit id))

include hvisit

theorem happens_output {t : Task} (ht : t.IsOutput) :
    Happens σ setup maxDepth depth [t] (t.trace visit) := by
  cases t with
  | render id => exact hvisit id
  | emit call => exact .single (fun p => p.emit setup call) (fun _ => rfl) fun _ _ => rfl
  | report id kind => exact .single (fun p => p.report setup id kind) (fun _ => rfl) fun _ _ => rfl
  | _ => exact ht.elim

theorem happens_rule (id : NodeId) :
    Happens σ setup maxDepth depth [.rule id] (setup.doc.ruleTrace visit id) := by
  have htasks : Happens σ setup maxDepth depth (setup.doc.ruleTasks id)
      (setup.doc.ruleTrace visit id) :=
    .flatMap fun t ht => happens_output hvisit (Task.isOutput_of_mem_ruleTasks ht)
  exact htasks.of_unfold (fun _ _ => rfl) rfl

theorem happens_action (id : NodeId) {action : Action} (haction : action ≠ .diagnosticCount) :
    Happens σ setup maxDepth depth [.perform id action]
      (setup.doc.actionTrace visit id depth action) := by
  have htasks : Happens σ setup maxDepth depth (Task.ofAction setup.doc id depth 0 action)
      (setup.doc.actionTrace visit id depth action) := by
    refine .flatMap fun t ht => ?_
    rcases Task.isOutput_or_rule_of_mem_ofAction ht with hout | rfl
    · cases t with
      | rule id => exact hout.elim
      | _ => exact happens_output hvisit hout
    · exact happens_rule hvisit id
  refine htasks.of_unfold (fun p hp => ?_) rfl
  rw [Task.unfold, Task.ofAction_count_eq haction, hp]

/-- Between entering a node and returning from it happens what its trace says. -/
theorem happens_inside (hsetup : setup.composer.Uncounting) (id : NodeId) :
    Happens σ setup maxDepth depth (setup.insideTasks id) (setup.inside visit depth id) := by
  rw [PassSetup.insideTasks, PassSetup.inside]
  cases hclaim : Pass.claim? setup id with
  | some actions =>
    obtain ⟨type, -, hactions⟩ := Option.bind_eq_some_iff.mp hclaim
    refine .map fun action haction => happens_action hvisit id ?_
    rintro rfl
    exact hsetup type actions hactions haction
  | none => exact happens_rule hvisit id

end

/-- Rendering a node within the limit begins with entering it. -/
theorem Agenda.Runs.enter {id : NodeId} {later : List Task} {p : Pass σ} {a : Agenda σ}
    {os : List Observation} (h : p.depth < maxDepth)
    (hrest : Runs setup maxDepth
      ⟨setup.insideTasks id ++ .leave :: later, p.observe setup (.enter id (p.depth + 1))⟩ os a) :
    Runs setup maxDepth ⟨.render id :: later, p⟩ (.enter id (p.depth + 1) :: os) a := by
  have hlimit : ¬ maxDepth ≤ p.depth := Nat.not_le_of_lt h
  have hobserved : observation? maxDepth ⟨.render id :: later, p⟩ =
      some (.enter id (p.depth + 1)) := by
    show some (if maxDepth ≤ p.depth then _ else _) = _
    rw [if_neg hlimit]
  have hnext : next setup maxDepth ⟨.render id :: later, p⟩ =
      some ⟨setup.insideTasks id ++ .leave :: later,
        p.observe setup (.enter id (p.depth + 1))⟩ := by
    rw [next_cons, Task.unfold, if_neg hlimit, PassSetup.insideTasks]
    cases hclaim : Pass.claim? setup id <;>
      simp [Pass.observe, PassSetup.visits, Observation.isVisit, Observation.rendered?, hclaim]
  have hruns := step hnext hrest
  rwa [hobserved] at hruns

/-- **While a node is rendered happens what its trace says.** -/
theorem happens_render (hsetup : setup.composer.Uncounting) : ∀ {levels depth : Nat},
    levels = maxDepth - depth → ∀ id,
      Happens σ setup maxDepth depth [.render id] (setup.trace levels (depth + 1) id)
  | 0, depth, hlevels, id => happens_stop (by omega) id
  | levels + 1, depth, hlevels, id => by
    have hrender : ∀ c, Happens σ setup maxDepth (depth + 1) [.render c]
        (setup.trace levels (depth + 1 + 1) c) := happens_render hsetup (by omega)
    have hinside := happens_inside hrender hsetup id
    intro p hp
    subst hp
    obtain ⟨q, hq, hruns⟩ := hinside (p.observe setup (.enter id (p.depth + 1))) rfl
    refine ⟨{ q with depth := q.depth - 1 }, by rw [hq, Nat.add_sub_cancel], ?_⟩
    have hleave := (hruns.append [.leave]).trans (.single (Agenda.next_cons .leave [] q))
    exact .enter (by omega) hleave

/-- The trace of a whole pass... -/
theorem runs_run (hsetup : setup.composer.Uncounting) (maxDepth : Nat) (start : Option NodeId)
    (sink : σ) :
    Agenda.Runs setup maxDepth (.begin start sink) (setup.passTrace maxDepth start)
      ⟨[], Pass.run setup maxDepth start sink⟩ := by
  have hrender : ∀ id, Happens σ setup maxDepth 0 [.render id] (setup.trace maxDepth 1 id) :=
    happens_render hsetup rfl
  have hall : Happens σ setup maxDepth 0 (start.toList.map .render)
      (setup.passTrace maxDepth start) := .map fun id _ => hrender id
  obtain ⟨q, -, hruns⟩ := hall { sink } rfl
  have hend : q = Pass.run setup maxDepth start sink :=
    hruns.pass_unique (leads_run setup maxDepth start sink)
  rw [← hend]
  exact hruns

end

/-! ## What a pass leaves -/

namespace Pass

variable {σ : Type} [Sink σ] {setup : PassSetup}

/-- A pass is what its trace makes of the beginning. -/
theorem run_eq_observe (hsetup : setup.composer.Uncounting) (maxDepth : Nat)
    (start : Option NodeId) (sink : σ) :
    run setup maxDepth start sink =
      (setup.passTrace maxDepth start).foldl (observe setup) { sink } :=
  (runs_run hsetup maxDepth start sink).pass_eq

theorem sink_run (hsetup : setup.composer.Uncounting) (maxDepth : Nat) (start : Option NodeId)
    (sink : σ) :
    (run setup maxDepth start sink).sink =
      ((setup.passTrace maxDepth start).filterMap Observation.call?).foldl (Sink.emit setup.doc)
        sink := by
  rw [run_eq_observe hsetup, sink_foldl_observe]

theorem diagnostics_run (hsetup : setup.composer.Uncounting) (maxDepth : Nat)
    (start : Option NodeId) (sink : σ) :
    (run setup maxDepth start sink).diagnostics.reverse =
      (setup.passTrace maxDepth start).filterMap (Observation.diagnostic? setup.doc) := by
  rw [run_eq_observe hsetup, diagnostics_foldl_observe]
  simp

theorem visits_run (hsetup : setup.composer.Uncounting) (maxDepth : Nat)
    (start : Option NodeId) (sink : σ) :
    (run setup maxDepth start sink).visits.reverse =
      setup.visits (setup.passTrace maxDepth start) := by
  rw [run_eq_observe hsetup, visits_foldl_observe]
  simp

theorem calls_run (hsetup : setup.composer.Uncounting) (maxDepth : Nat) (start : Option NodeId) :
    (run setup maxDepth start ({} : Recording)).sink.calls =
      (setup.passTrace maxDepth start).filterMap Observation.call? := by
  rw [sink_run hsetup, Recording.calls_foldl_emit]
  rfl

end Pass

/-! ## Comparing traces -/

/-- Whether a relation between traces is kept when traces are put together: calls and reports are
related to themselves, and traces that follow one another to traces that do. -/
structure Compatible (R : List Observation → List Observation → Prop) : Prop where
  nil : R [] []
  call (call : Call) : R [.call call] [.call call]
  report (id : NodeId) (kind : DiagnosticKind) : R [.report id kind] [.report id kind]
  append {as bs as' bs' : List Observation} : R as bs → R as' bs' → R (as ++ as') (bs ++ bs')

namespace Compatible

variable {R : List Observation → List Observation → Prop} {visit visit' : NodeId → List Observation}

theorem flatMap {α : Type} (hR : Compatible R) {f g : α → List Observation} : ∀ {l : List α},
    (∀ a ∈ l, R (f a) (g a)) → R (l.flatMap f) (l.flatMap g)
  | [], _ => hR.nil
  | a :: l, h => by
    rw [List.forall_mem_cons] at h
    exact hR.append h.1 (hR.flatMap h.2)

theorem trace (hR : Compatible R) (h : ∀ id, R (visit id) (visit' id)) (t : Task) :
    R (t.trace visit) (t.trace visit') := by
  cases t with
  | render id => exact h id
  | emit call => exact hR.call call
  | report id kind => exact hR.report id kind
  | _ => exact hR.nil

theorem ruleTrace (hR : Compatible R) (h : ∀ id, R (visit id) (visit' id)) (doc : Document)
    (id : NodeId) : R (doc.ruleTrace visit id) (doc.ruleTrace visit' id) :=
  hR.flatMap fun t _ => hR.trace h t

theorem taskTrace (hR : Compatible R) (h : ∀ id, R (visit id) (visit' id)) (doc : Document)
    (t : Task) : R (doc.taskTrace visit t) (doc.taskTrace visit' t) := by
  cases t with
  | rule id => exact hR.ruleTrace h doc id
  | render id => exact hR.trace h (.render id)
  | emit call => exact hR.trace h (.emit call)
  | report id kind => exact hR.trace h (.report id kind)
  | _ => exact hR.nil

/-- What happens inside of a node compares as what happens while other nodes are rendered does. -/
theorem inside (hR : Compatible R) (h : ∀ id, R (visit id) (visit' id)) (setup : PassSetup)
    (level : Nat) (id : NodeId) :
    R (setup.inside visit level id) (setup.inside visit' level id) := by
  rw [PassSetup.inside, PassSetup.inside]
  cases Pass.claim? setup id with
  | some actions =>
    exact hR.flatMap fun action _ => hR.flatMap fun t _ => hR.taskTrace h setup.doc t
  | none => exact hR.ruleTrace h setup.doc id

end Compatible

end MarkdownTree
