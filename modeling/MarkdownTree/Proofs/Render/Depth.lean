import MarkdownTree.Proofs.Render.Agenda

/-!
# The limit of nesting

Whatever a composer does, a pass is at no time deeper than its limit: the depth is the number of
nodes that are being rendered, and a node is rendered only if there is a level left for it.

* `Agenda.next_cases` — a step stays at its depth, descends into a node or returns from one.
* `Agenda.Guarded` — the depth counts the nodes that the agenda has still to return from, and
  whatever is done inside of a node is followed by such a return.
* `Guarded.next`, `Guarded.leads` — every step keeps this, and so does every run.
* `run_depth_guarded` — what the limit means for each node that a pass renders.
-/

namespace MarkdownTree

namespace Task

/-- Whether a task is done inside of a node: a default rule, or an action of the composer. -/
def InsideNode : Task → Prop
  | .rule _ | .perform _ _ => True
  | .render _ | .emit _ | .report _ _ | .leave => False

/-- Whether a task is none that a node is entered or left with. -/
def IsOutput : Task → Prop
  | .render _ | .emit _ | .report _ _ => True
  | .rule _ | .perform _ _ | .leave => False

/-- Whether every task that is done inside of a node has a return from a node behind it. -/
def Enclosed : List Task → Prop
  | [] => True
  | t :: ts => (t.InsideNode → leave ∈ ts) ∧ Enclosed ts

theorem Enclosed.append {later : List Task} (h : Enclosed later) : ∀ {tasks : List Task},
    (∀ t ∈ tasks, t.InsideNode → leave ∈ later) → Enclosed (tasks ++ later)
  | [], _ => h
  | t :: ts, hts => by
    rw [List.forall_mem_cons] at hts
    refine ⟨fun ht => ?_, h.append hts.2⟩
    exact List.mem_append_right ts (hts.1 ht)

theorem IsOutput.ne_leave {t : Task} (h : t.IsOutput) : t ≠ leave := by
  rintro rfl
  exact h

/-! ## What a task consists of -/

theorem isOutput_of_mem_singleton {t u : Task} (h : t ∈ [u]) (hu : u.IsOutput) : t.IsOutput := by
  rwa [List.mem_singleton.mp h]

theorem isOutput_of_mem_map_render {ids : List NodeId} {t : Task}
    (h : t ∈ ids.map Task.render) : t.IsOutput := by
  obtain ⟨id, -, rfl⟩ := List.mem_map.mp h
  trivial

theorem isOutput_of_mem_itemBodyTasks {doc : Document} {id : NodeId} {t : Task}
    (h : t ∈ doc.itemBodyTasks id) : t.IsOutput := by
  unfold Document.itemBodyTasks at h
  split at h
  · exact isOutput_of_mem_singleton h trivial
  · exact isOutput_of_mem_map_render h

theorem isOutput_of_mem_itemTasks {doc : Document} {t : Task} : ∀ {ids : List NodeId} {index : Nat},
    t ∈ doc.itemTasks index ids → t.IsOutput
  | [], _, h => by cases h
  | id :: ids, index, h => by
    rcases List.mem_cons.mp h with rfl | h
    · trivial
    rcases List.mem_append.mp h with h | h
    · exact isOutput_of_mem_itemBodyTasks h
    rcases List.mem_cons.mp h with rfl | h
    · trivial
    · exact isOutput_of_mem_itemTasks h

theorem isOutput_of_mem_listTasks {doc : Document} {kind : ListKind} {start : Int}
    {items : List NodeId} {t : Task} (h : t ∈ doc.listTasks kind start items) : t.IsOutput := by
  rcases List.mem_cons.mp h with rfl | h
  · trivial
  rcases List.mem_append.mp h with h | h
  · exact isOutput_of_mem_itemTasks h
  · exact isOutput_of_mem_singleton h trivial

theorem isOutput_of_mem_blockTasks {doc : Document} {id : NodeId} {b : Block} {t : Task}
    (h : t ∈ doc.blockTasks id b) : t.IsOutput := by
  cases b with
  | document => exact isOutput_of_mem_map_render h
  | blockQuote =>
    rcases List.mem_cons.mp h with rfl | h
    · trivial
    rcases List.mem_append.mp h with h | h
    · exact isOutput_of_mem_map_render h
    · exact isOutput_of_mem_singleton h trivial
  | unorderedList => exact isOutput_of_mem_listTasks h
  | orderedList start => exact isOutput_of_mem_listTasks h
  | heading level =>
    rcases List.mem_cons.mp h with rfl | h
    · trivial
    rcases List.mem_cons.mp h with rfl | h
    · trivial
    · exact isOutput_of_mem_singleton h trivial
  | footReferenceDefinition label =>
    rcases List.mem_cons.mp h with rfl | h
    · trivial
    · exact isOutput_of_mem_map_render h
  | linkReferenceDefinition label destination title => cases h
  | _ => exact isOutput_of_mem_singleton h trivial

/-- A default rule makes calls, reports, and goes on with the walk. -/
theorem isOutput_of_mem_ruleTasks {doc : Document} {id : NodeId} {t : Task}
    (h : t ∈ doc.ruleTasks id) : t.IsOutput := by
  unfold Document.ruleTasks at h
  split at h
  · exact isOutput_of_mem_blockTasks h
  · rcases List.mem_cons.mp h with rfl | h
    · trivial
    · exact isOutput_of_mem_singleton h trivial
  · exact isOutput_of_mem_singleton h trivial

/-- So does an action, or it applies the default rule. -/
theorem isOutput_or_rule_of_mem_ofAction {doc : Document} {id : NodeId} {depth count : Nat}
    {action : Action} {t : Task} (h : t ∈ ofAction doc id depth count action) :
    t.IsOutput ∨ t = .rule id := by
  cases action with
  | children => exact .inl (isOutput_of_mem_map_render h)
  | default => exact .inr (List.mem_singleton.mp h)
  | firstChild => exact .inl (isOutput_of_mem_map_render h)
  | nextSibling => exact .inl (isOutput_of_mem_map_render h)
  | child index => exact .inl (isOutput_of_mem_map_render h)
  | grandchildren =>
    obtain ⟨c, -, h⟩ := List.mem_flatMap.mp h
    exact .inl (isOutput_of_mem_map_render h)
  | blockChildren =>
    by_cases hinline : (doc.kind id).acceptsInline = true
    · rw [ofAction, if_pos hinline] at h
      cases h
    · rw [ofAction, if_neg hinline] at h
      exact .inl (isOutput_of_mem_map_render h)
  | absent => cases h
  | _ => exact .inl (isOutput_of_mem_singleton h trivial)

end Task

namespace Agenda

variable {σ : Type} [Sink σ] {setup : PassSetup} {maxDepth : Nat} {a b : Agenda σ}

/-- **What one step can do.** It stays at its depth; or it is within the limit and descends into a
node, which it will return from; or it returns from one. -/
theorem next_cases (h : a.next setup maxDepth = some b) : ∃ t ts, a.tasks = t :: ts ∧
    ((t ≠ .leave ∧ ∃ tasks, b.tasks = tasks ++ ts ∧
        (∀ u ∈ tasks, u ≠ .leave ∧ (u.InsideNode → t.InsideNode)) ∧
        b.pass.depth = a.pass.depth ∧ b.pass.visits = a.pass.visits) ∨
      (∃ id inside, t = .render id ∧ a.pass.depth < maxDepth ∧
        b.tasks = inside ++ .leave :: ts ∧ .leave ∉ inside ∧
        b.pass.depth = a.pass.depth + 1 ∧
        (b.pass.visits = a.pass.visits ∨
          b.pass.visits = (id, a.pass.depth + 1) :: a.pass.visits)) ∨
      (t = .leave ∧ b.tasks = ts ∧ b.pass.depth = a.pass.depth - 1 ∧
        b.pass.visits = a.pass.visits)) := by
  obtain ⟨_ | ⟨t, ts⟩, p⟩ := a
  · cases h
  rw [next_cons] at h
  cases h
  refine ⟨t, ts, rfl, ?_⟩
  cases t with
  | render id =>
    by_cases hlimit : maxDepth ≤ p.depth
    · refine .inl ⟨by simp, [], ?_⟩
      simp [Task.unfold, if_pos hlimit, Pass.report]
    · refine .inr (.inl ⟨id, ?_⟩)
      rw [Task.unfold, if_neg hlimit]
      cases Pass.claim? setup id with
      | some actions =>
        refine ⟨actions.map (.perform id), rfl, Nat.lt_of_not_le hlimit, ?_, ?_, rfl, .inr rfl⟩
        · simp
        · simp
      | none =>
        refine ⟨[.rule id], rfl, Nat.lt_of_not_le hlimit, rfl, ?_, rfl, .inl rfl⟩
        simp
  | rule id =>
    refine .inl ⟨by simp, _, rfl, fun u hu => ?_, rfl, rfl⟩
    exact ⟨(Task.isOutput_of_mem_ruleTasks hu).ne_leave, fun _ => trivial⟩
  | perform id action =>
    refine .inl ⟨by simp, _, rfl, fun u hu => ⟨?_, fun _ => trivial⟩, rfl, rfl⟩
    rcases Task.isOutput_or_rule_of_mem_ofAction hu with hu | rfl
    · exact hu.ne_leave
    · simp
  | emit call => exact .inl ⟨by simp, [], rfl, by simp, rfl, rfl⟩
  | report id kind => exact .inl ⟨by simp, [], rfl, by simp, rfl, rfl⟩
  | leave => exact .inr (.inr ⟨rfl, rfl, rfl, rfl⟩)

/-- What holds of an agenda at any time of a pass. -/
structure Guarded (maxDepth : Nat) (a : Agenda σ) : Prop where
  /-- The depth counts the nodes that are still to be returned from. -/
  depth_eq : a.pass.depth = a.tasks.count .leave
  depth_le : a.pass.depth ≤ maxDepth
  enclosed : Task.Enclosed a.tasks
  visits : ∀ visit ∈ a.pass.visits, 1 ≤ visit.2 ∧ visit.2 ≤ maxDepth

namespace Guarded

omit [Sink σ] in
theorem begin (maxDepth : Nat) (start : Option NodeId) (sink : σ) :
    Guarded maxDepth (.begin start sink) := by
  refine ⟨?_, Nat.zero_le maxDepth, ?_, by simp [Agenda.begin]⟩
  · cases start <;> rfl
  · cases start with
    | none => trivial
    | some id => exact ⟨False.elim, trivial⟩

/-- **Every step keeps the limit.** -/
theorem next (hguarded : a.Guarded maxDepth) (h : a.next setup maxDepth = some b) :
    b.Guarded maxDepth := by
  obtain ⟨hdepth, hle, henclosed, hvisits⟩ := hguarded
  obtain ⟨t, ts, htasks, hcases⟩ := next_cases h
  rw [htasks] at hdepth henclosed
  obtain ⟨hinside, hts⟩ := henclosed
  rcases hcases with ⟨hleave, tasks, hb, hu, hd, hv⟩ | ⟨id, inside, rfl, hlt, hb, hno, hd, hv⟩ |
    ⟨rfl, hb, hd, hv⟩
  · have hcount : tasks.count .leave = 0 := List.count_eq_zero.mpr fun hmem => (hu _ hmem).1 rfl
    rw [List.count_cons_of_ne hleave] at hdepth
    refine ⟨?_, by rwa [hd], ?_, by rwa [hv]⟩
    · rw [hb, hd, hdepth, List.count_append, hcount, Nat.zero_add]
    · rw [hb]
      exact hts.append fun u humem hui => hinside ((hu u humem).2 hui)
  · have hcount : inside.count .leave = 0 := List.count_eq_zero.mpr hno
    have hne : Task.render id ≠ .leave := by simp
    rw [List.count_cons_of_ne hne] at hdepth
    refine ⟨?_, by omega, ?_, ?_⟩
    · rw [hb, hd, hdepth, List.count_append, hcount, Nat.zero_add, List.count_cons_self]
    · rw [hb]
      have hlater : Task.Enclosed (.leave :: ts) := ⟨False.elim, hts⟩
      exact hlater.append fun _ _ _ => List.mem_cons_self
    · rcases hv with hv | hv
      · rwa [hv]
      · rw [hv, List.forall_mem_cons]
        exact ⟨⟨Nat.le_add_left 1 _, hlt⟩, hvisits⟩
  · rw [List.count_cons_self] at hdepth
    refine ⟨?_, by omega, by rwa [hb], by rwa [hv]⟩
    rw [hb, hd, hdepth, Nat.add_sub_cancel]

/-- **Every run keeps the limit.** -/
theorem leads (hguarded : a.Guarded maxDepth) (h : Leads setup maxDepth a b) :
    b.Guarded maxDepth := by
  induction h with
  | refl => exact hguarded
  | tail _ hnext ih => exact ih.next hnext

omit [Sink σ] in
/-- Inside of a node a pass is on one of its levels. -/
theorem one_le_depth (hguarded : a.Guarded maxDepth) {t : Task} {ts : List Task}
    (htasks : a.tasks = t :: ts) (ht : t.InsideNode) : 1 ≤ a.pass.depth := by
  have henclosed := hguarded.enclosed
  rw [htasks] at henclosed
  have hpos : 0 < ts.count Task.leave := List.count_pos_iff.mpr (henclosed.1 ht)
  have hle : ts.count Task.leave ≤ a.tasks.count .leave := by
    rw [htasks]
    exact List.count_le_count_cons
  rw [hguarded.depth_eq]
  omega

end Guarded

end Agenda

/-- Whether an action goes on with the walk at a node that is not there. -/
def Action.TargetsNothing (doc : Document) (id : NodeId) : Action → Prop
  | .absent => True
  | .firstChild => doc.firstChild? id = none
  | .nextSibling => doc.nextSibling? id = none
  | .child index => (doc.children id)[index]? = none
  | _ => False

theorem Task.ofAction_of_targetsNothing {doc : Document} {id : NodeId} {action : Action}
    (h : action.TargetsNothing doc id) (depth count : Nat) :
    Task.ofAction doc id depth count action = [] := by
  cases action with
  | absent => rfl
  | firstChild => simp [ofAction, show doc.firstChild? id = none from h]
  | nextSibling => simp [ofAction, show doc.nextSibling? id = none from h]
  | child index => simp [ofAction, show (doc.children id)[index]? = none from h]
  | _ => exact h.elim

/-- What the limit of nesting means at one time of a pass. -/
structure Agenda.KeepsLimit {σ : Type} [Sink σ] (setup : PassSetup) (maxDepth : Nat)
    (a : Agenda σ) : Prop where
  /-- The composer was given nodes on the levels from one to the limit only. -/
  visits : ∀ visit ∈ a.pass.visits, 1 ≤ visit.2 ∧ visit.2 ≤ maxDepth
  /-- Default rules and actions of the composer are done on these levels only. -/
  inside : ∀ t later, a.tasks = t :: later → t.InsideNode →
    1 ≤ a.pass.depth ∧ a.pass.depth ≤ maxDepth
  /-- Rendering a node ends, and the depth is then what it was before. -/
  returns : ∀ id later, a.tasks = .render id :: later →
    ∃ p : Pass σ, Leads setup maxDepth ⟨[.render id], a.pass⟩ ⟨[], p⟩ ∧
      Leads setup maxDepth a ⟨later, p⟩ ∧ p.depth = a.pass.depth
  /-- At the limit a node is reported and nothing else happens. -/
  stops : ∀ id later, a.tasks = .render id :: later → a.pass.depth = maxDepth →
    a.next setup maxDepth = some ⟨later, { a.pass with
      diagnostics := .of setup.doc id .depthExceeded :: a.pass.diagnostics }⟩
  /-- Going on at a node that is not there changes nothing. -/
  absent : ∀ id action later, a.tasks = .perform id action :: later →
    action.TargetsNothing setup.doc id → a.next setup maxDepth = some ⟨later, a.pass⟩

/-- **A pass keeps its limit of nesting**, whatever document it walks and whatever its composer
does. It is done in the end, and at every time on the way the limit is kept. -/
theorem run_depth_guarded {σ : Type} [Sink σ] (doc : Document) (composer : Composer)
    (maxDepth : Nat) (start : Option NodeId) (sink : σ) :
    let setup : PassSetup := ⟨doc, composer⟩
    Agenda.Leads setup maxDepth (.begin start sink) ⟨[], Pass.run setup maxDepth start sink⟩ ∧
      (∀ a : Agenda σ, Agenda.Leads setup maxDepth (.begin start sink) a →
        a.KeepsLimit setup maxDepth) ∧
      Pass.run setup maxDepth none sink = { sink } := by
  intro setup
  refine ⟨leads_run setup maxDepth start sink, fun a ha => ?_, rfl⟩
  have hguarded := (Agenda.Guarded.begin maxDepth start sink).leads ha
  refine ⟨hguarded.visits, ?_, ?_, ?_, ?_⟩
  · intro t later htasks ht
    exact ⟨hguarded.one_le_depth htasks ht, hguarded.depth_le⟩
  · intro id later htasks
    obtain ⟨hdepth, hleads⟩ := render_does setup maxDepth rfl id a.pass rfl
    refine ⟨_, hleads, ?_, hdepth⟩
    have happend := hleads.append later
    obtain ⟨tasks, p⟩ := a
    cases htasks
    exact happend
  · intro id later htasks hdepth
    obtain ⟨tasks, p⟩ := a
    cases htasks
    rw [Agenda.next_cons, Task.unfold, if_pos (Nat.le_of_eq hdepth.symm)]
    rfl
  · intro id action later htasks htarget
    obtain ⟨tasks, p⟩ := a
    cases htasks
    rw [Agenda.next_cons, Task.unfold, Task.ofAction_of_targetsNothing htarget]
    rfl

/-- A composer that renders the root again and again. -/
example :
    let p := Pass.run ⟨.empty, ⟨fun _ => some [.self, .depth]⟩⟩ 2 (some 0) ({} : Recording)
    p.sink.calls = [.run "2", .run "1"] ∧ p.visits = [(0, 2), (0, 1)] ∧
      p.diagnostics = [⟨0, none, .depthExceeded⟩] ∧ p.depth = 0 := by
  decide +kernel

end MarkdownTree
