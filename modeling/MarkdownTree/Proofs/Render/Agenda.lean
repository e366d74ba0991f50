import Mathlib.Logic.Relation
import MarkdownTree.Proofs.Render.Default

/-!
# A pass one task at a time

A pass is a recursion over levels that are left. Here it is taken apart into tasks, which are done
one after the other: the first task of an agenda is replaced by the tasks it consists of, or it
changes the state of the pass. Nothing bounds an agenda but the limit that the task of rendering a
node compares the current depth with, so a composer that renders a node again could in principle
keep it going for ever.

* `Task.unfold` — what a task consists of, and what it changes.
* `Agenda.Leads` — the states that an agenda goes through.
* `Does` — tasks that together do what a function on passes says.
* `render_does`, `leads_run` — with enough levels left, rendering a node is what its task does; so
  the agenda of a pass is done in the end, and what it leaves is the result of the pass.
-/

namespace MarkdownTree

/-- Something that is left to do in a pass. -/
inductive Task
  /-- Renders a node, if it is not beyond the limit. -/
  | render (id : NodeId)
  /-- Applies the default rule to a node. -/
  | rule (id : NodeId)
  /-- Performs an action of the composer on a node. -/
  | perform (id : NodeId) (action : Action)
  | emit (call : Call)
  | report (id : NodeId) (kind : DiagnosticKind)
  /-- Returns from rendering a node. -/
  | leave
deriving DecidableEq, Repr, Inhabited

/-! ## What a task consists of -/

namespace Document

variable (doc : Document)

/-- The tasks for the content of a list item. -/
def itemBodyTasks (id : NodeId) : List Task :=
  match doc.children id with
  | [] => [.emit .empty]
  | children => children.map .render

/-- The tasks for the items of a list, counted from `index`. -/
def itemTasks : Nat → List NodeId → List Task
  | _, [] => []
  | index, id :: ids =>
    .emit (.itemStart index) ::
      (doc.itemBodyTasks id ++ .emit .itemEnd :: itemTasks (index + 1) ids)

/-- The tasks for a list with the given items. -/
def listTasks (kind : ListKind) (start : Int) (items : List NodeId) : List Task :=
  .emit (.listStart kind start) :: (doc.itemTasks 0 items ++ [.emit .listEnd])

/-- The tasks of the default rule of a block. -/
def blockTasks (id : NodeId) : Block → List Task
  | .document => (doc.children id).map .render
  | .blockQuote => .emit .quoteStart :: ((doc.children id).map .render ++ [.emit .quoteEnd])
  | .unorderedList => doc.listTasks .unordered 0 (doc.listItems id)
  | .orderedList start => doc.listTasks .ordered (Pass.startIndex start) (doc.children id)
  | .thematicBreak => [.emit .rule]
  | .heading level => [.emit (.headingStart level), .emit (.text id false), .emit .headingEnd]
  | .indentedCodeBlock literal => [.emit (.code none (Pass.codeText literal))]
  | .fencedCodeBlock info literal =>
    [.emit (.code (Pass.fenceLanguage info) (Pass.codeText literal))]
  | .htmlBlock literal => [.emit (.html literal)]
  | .linkReferenceDefinition _ _ _ => []
  | .paragraph fadeOut => [.emit (.text id fadeOut)]
  | .tableRoot _ => [.emit (.table id)]
  | .listItem => [.report id .listItemOutsideList]
  | .tableHeader | .tableBody | .tableRow | .tableCell => [.report id .tablePartOutsideTable]
  | .footDefinition label => [.emit (.run label)]
  | .footReferenceDefinition label => .emit (.run label) :: (doc.children id).map .render

/-- The tasks of the default rule of a node. -/
def ruleTasks (id : NodeId) : List Task :=
  match doc.kind id with
  | .block b => doc.blockTasks id b
  | .inline (.text literal) => [.report id .textOutsideBlock, .emit (.run literal)]
  | .inline _ => [.report id .inlineInBlockPosition]

end Document

namespace Task

/-- The tasks of an action, with the depth and the number of diagnostics of that time. -/
def ofAction (doc : Document) (id : NodeId) (depth diagnosticCount : Nat) : Action → List Task
  | .children => (doc.children id).map .render
  | .default => [.rule id]
  | .self => [.render id]
  | .firstChild => (doc.firstChild? id).toList.map .render
  | .nextSibling => (doc.nextSibling? id).toList.map .render
  | .child index => (doc.children id)[index]?.toList.map .render
  | .grandchildren => (doc.children id).flatMap fun c => (doc.children c).map .render
  | .blockChildren =>
    if (doc.kind id).acceptsInline then [] else (doc.children id).map .render
  | .absent => []
  | .report kind => [.report id kind]
  | .depth => [.emit (.run (toString depth))]
  | .diagnosticCount => [.emit (.run (toString diagnosticCount))]
  | .text fadeOut => [.emit (.text id fadeOut)]
  | .table => [.emit (.table id)]
  | .emit call => [.emit call]

variable {σ : Type} [Sink σ]

/-- What a task consists of, and the pass when it is begun. Only the rendering of a node looks at
the limit. -/
def unfold (setup : PassSetup) (maxDepth : Nat) (p : Pass σ) : Task → List Task × Pass σ
  | .render id =>
    if maxDepth ≤ p.depth then ([], p.report setup id .depthExceeded)
    else
      match Pass.claim? setup id with
      | some actions =>
        (actions.map (.perform id) ++ [.leave],
          { p with depth := p.depth + 1, visits := (id, p.depth + 1) :: p.visits })
      | none => ([.rule id, .leave], { p with depth := p.depth + 1 })
  | .rule id => (setup.doc.ruleTasks id, p)
  | .perform id action => (ofAction setup.doc id p.depth p.diagnostics.length action, p)
  | .emit call => ([], p.emit setup call)
  | .report id kind => ([], p.report setup id kind)
  | .leave => ([], { p with depth := p.depth - 1 })

end Task

/-- The tasks that are left, first one first, and the pass so far. -/
structure Agenda (σ : Type) where
  tasks : List Task
  pass : Pass σ

namespace Agenda

variable {σ : Type} [Sink σ] {setup : PassSetup} {maxDepth : Nat}

/-- The agenda with its first task begun. An agenda without tasks is done. -/
def next (setup : PassSetup) (maxDepth : Nat) (a : Agenda σ) : Option (Agenda σ) :=
  match a.tasks with
  | [] => none
  | t :: ts =>
    let (tasks, pass) := t.unfold setup maxDepth a.pass
    some ⟨tasks ++ ts, pass⟩

/-- Whether an agenda becomes another one in some steps. -/
def Leads (setup : PassSetup) (maxDepth : Nat) : Agenda σ → Agenda σ → Prop :=
  Relation.ReflTransGen fun a b => a.next setup maxDepth = some b

theorem next_cons (t : Task) (ts : List Task) (p : Pass σ) :
    next setup maxDepth ⟨t :: ts, p⟩ =
      some ⟨(t.unfold setup maxDepth p).1 ++ ts, (t.unfold setup maxDepth p).2⟩ := rfl

theorem Leads.trans {a b c : Agenda σ} (h : Leads setup maxDepth a b)
    (h' : Leads setup maxDepth b c) : Leads setup maxDepth a c :=
  Relation.ReflTransGen.trans h h'

theorem Leads.head {a b c : Agenda σ} (h : a.next setup maxDepth = some b)
    (h' : Leads setup maxDepth b c) : Leads setup maxDepth a c :=
  Relation.ReflTransGen.head h h'

theorem next_append {a b : Agenda σ} (h : a.next setup maxDepth = some b) (later : List Task) :
    next setup maxDepth ⟨a.tasks ++ later, a.pass⟩ = some ⟨b.tasks ++ later, b.pass⟩ := by
  obtain ⟨_ | ⟨t, ts⟩, p⟩ := a
  · cases h
  · rw [next_cons] at h
    cases h
    rw [List.cons_append, next_cons, List.append_assoc]

/-- Tasks that come later have to wait and change nothing before. -/
theorem Leads.append {a b : Agenda σ} (h : Leads setup maxDepth a b) (later : List Task) :
    Leads setup maxDepth ⟨a.tasks ++ later, a.pass⟩ ⟨b.tasks ++ later, b.pass⟩ := by
  induction h with
  | refl => exact .refl
  | tail _ hnext ih => exact ih.tail (next_append hnext later)

end Agenda

/-! ## Functions that tasks carry out -/

section

variable {σ : Type} [Sink σ] {setup : PassSetup} {maxDepth depth : Nat}

/-- Whether some tasks, begun at a depth, are all done in the end, have then done what a function
says, and leave the depth as they found it. -/
def Does (setup : PassSetup) (maxDepth depth : Nat) (tasks : List Task) (f : Pass σ → Pass σ) :
    Prop :=
  ∀ p : Pass σ, p.depth = depth →
    (f p).depth = depth ∧ Agenda.Leads setup maxDepth ⟨tasks, p⟩ ⟨[], f p⟩

namespace Does

variable {tasks tasks' : List Task} {t : Task} {f g : Pass σ → Pass σ}

theorem nil : Does (σ := σ) setup maxDepth depth [] id :=
  fun _ hp => ⟨hp, .refl⟩

theorem append (h : Does setup maxDepth depth tasks f) (h' : Does setup maxDepth depth tasks' g) :
    Does setup maxDepth depth (tasks ++ tasks') fun p => g (f p) := by
  intro p hp
  obtain ⟨hdepth, hleads⟩ := h p hp
  obtain ⟨hdepth', hleads'⟩ := h' (f p) hdepth
  exact ⟨hdepth', (hleads.append tasks').trans hleads'⟩

theorem cons (h : Does setup maxDepth depth [t] f) (h' : Does setup maxDepth depth tasks' g) :
    Does setup maxDepth depth (t :: tasks') fun p => g (f p) :=
  append h h'

/-- A task does what the tasks do that it consists of. -/
theorem of_unfold (h : Does setup maxDepth depth tasks f)
    (hunfold : ∀ p : Pass σ, t.unfold setup maxDepth p = (tasks, p)) :
    Does setup maxDepth depth [t] f := by
  intro p hp
  obtain ⟨hdepth, hleads⟩ := h p hp
  refine ⟨hdepth, .head (Agenda.next_cons t [] p) ?_⟩
  rw [hunfold, List.append_nil]
  exact hleads

theorem emit (call : Call) :
    Does (σ := σ) setup maxDepth depth [.emit call] fun p => p.emit setup call :=
  fun p hp => ⟨hp, .single (Agenda.next_cons (.emit call) [] p)⟩

theorem report (id : NodeId) (kind : DiagnosticKind) :
    Does (σ := σ) setup maxDepth depth [.report id kind] fun p => p.report setup id kind :=
  fun p hp => ⟨hp, .single (Agenda.next_cons (.report id kind) [] p)⟩

end Does

/-! ## Default rules and actions -/

variable {visit : NodeId → Pass σ → Pass σ}

/-- Whether the task of rendering a node, begun at a depth, does what a way to go on with the walk
says. -/
def Visits (setup : PassSetup) (maxDepth depth : Nat) (visit : NodeId → Pass σ → Pass σ) : Prop :=
  ∀ id, Does setup maxDepth depth [.render id] (visit id)

theorem Visits.renderAll (h : Visits setup maxDepth depth visit) : ∀ ids : List NodeId,
    Does setup maxDepth depth (ids.map .render) (Pass.renderAll visit ids)
  | [] => .nil
  | id :: ids => (h id).cons (h.renderAll ids)

theorem Visits.renderItems (h : Visits setup maxDepth depth visit) :
    ∀ (ids : List NodeId) (index : Nat),
      Does setup maxDepth depth (setup.doc.itemTasks index ids)
        (Pass.renderItems setup visit index ids)
  | [], _ => .nil
  | id :: ids, index => by
    have hbody : Does setup maxDepth depth (setup.doc.itemBodyTasks id)
        (fun p => match setup.doc.children id with
          | [] => p.emit setup .empty
          | children => Pass.renderAll visit children p) := by
      rw [Document.itemBodyTasks]
      cases setup.doc.children id with
      | nil => exact .emit .empty
      | cons child children => exact h.renderAll (child :: children)
    have hrest := Does.cons (.emit .itemEnd) (h.renderItems ids (index + 1))
    have hitems := Does.cons (.emit (.itemStart index)) (hbody.append hrest)
    exact hitems

theorem Visits.renderList (h : Visits setup maxDepth depth visit) (kind : ListKind) (start : Int)
    (items : List NodeId) :
    Does setup maxDepth depth (setup.doc.listTasks kind start items)
      (Pass.renderList setup visit kind start items) := by
  have hitems := (h.renderItems items 0).append (.emit .listEnd)
  have hlist := Does.cons (.emit (.listStart kind start)) hitems
  exact hlist

theorem Visits.blockRule (h : Visits setup maxDepth depth visit) (id : NodeId) (b : Block) :
    Does setup maxDepth depth (setup.doc.blockTasks id b)
      (fun p => Pass.blockRule setup visit id p b) := by
  cases b with
  | document => exact h.renderAll _
  | blockQuote =>
    have hquote := Does.cons (.emit .quoteStart)
      ((h.renderAll (setup.doc.children id)).append (.emit .quoteEnd))
    exact hquote
  | unorderedList => exact h.renderList _ _ _
  | orderedList start => exact h.renderList _ _ _
  | heading level => exact .cons (.emit _) (.cons (.emit _) (.emit _))
  | linkReferenceDefinition label destination title => exact .nil
  | listItem => exact .report id _
  | tableHeader => exact .report id _
  | tableBody => exact .report id _
  | tableRow => exact .report id _
  | tableCell => exact .report id _
  | footReferenceDefinition label => exact .cons (.emit _) (h.renderAll _)
  | _ => exact .emit _

theorem Visits.defaultRule (h : Visits setup maxDepth depth visit) (id : NodeId) :
    Does setup maxDepth depth [.rule id] (Pass.defaultRule setup visit id) := by
  have htasks : Does setup maxDepth depth (setup.doc.ruleTasks id)
      (Pass.defaultRule setup visit id) := by
    unfold Document.ruleTasks Pass.defaultRule
    cases setup.doc.kind id with
    | block b => exact h.blockRule id b
    | inline i =>
      cases i with
      | text literal => exact .cons (.report id _) (.emit _)
      | _ => exact .report id _
  exact htasks.of_unfold fun p => rfl

/-- Passing over the children of some nodes one after the other. -/
theorem Visits.foldl_renderAll (h : Visits setup maxDepth depth visit) : ∀ ids : List NodeId,
    Does setup maxDepth depth (ids.flatMap fun c => (setup.doc.children c).map .render)
      (fun p => ids.foldl (fun p c => Pass.renderAll visit (setup.doc.children c) p) p)
  | [] => .nil
  | id :: ids => (h.renderAll (setup.doc.children id)).append (h.foldl_renderAll ids)

/-- Rendering the children, unless the node takes inline content. -/
theorem Visits.unless (h : Visits setup maxDepth depth visit) (c : Bool) (ids : List NodeId) :
    Does setup maxDepth depth (if c then [] else ids.map .render)
      (fun p => if c then p else Pass.renderAll visit ids p) := by
  cases c with
  | true => exact .nil
  | false => exact h.renderAll ids

theorem Visits.perform (h : Visits setup maxDepth depth visit) (id : NodeId) (action : Action) :
    Does setup maxDepth depth [.perform id action]
      (fun p => Pass.perform setup visit id p action) := by
  intro p hp
  -- what an action consists of may depend on the pass at that time
  suffices h : (Pass.perform setup visit id p action).depth = depth ∧
      Agenda.Leads setup maxDepth
        ⟨Task.ofAction setup.doc id p.depth p.diagnostics.length action, p⟩
        ⟨[], Pass.perform setup visit id p action⟩ by
    refine ⟨h.1, .head (Agenda.next_cons _ [] p) ?_⟩
    rw [List.append_nil]
    exact h.2
  cases action with
  | children => exact h.renderAll _ p hp
  | default => exact h.defaultRule id p hp
  | self => exact h id p hp
  | firstChild => exact h.renderAll _ p hp
  | nextSibling => exact h.renderAll _ p hp
  | child index => exact h.renderAll _ p hp
  | grandchildren => exact h.foldl_renderAll _ p hp
  | blockChildren => exact h.unless (setup.doc.kind id).acceptsInline _ p hp
  | absent => exact Does.nil p hp
  | report kind => exact Does.report id kind p hp
  | depth => exact Does.emit _ p hp
  | diagnosticCount => exact Does.emit _ p hp
  | text fadeOut => exact Does.emit _ p hp
  | table => exact Does.emit _ p hp
  | emit call => exact Does.emit _ p hp

theorem Visits.foldl_perform (h : Visits setup maxDepth depth visit) (id : NodeId) :
    ∀ actions : List Action, Does setup maxDepth depth (actions.map (.perform id))
      (fun p => actions.foldl (Pass.perform setup visit id) p)
  | [] => .nil
  | action :: actions => (h.perform id action).cons (h.foldl_perform id actions)

/-! ## Whole passes -/

/-- Behind what is done inside of a node the depth is again what it was before. -/
theorem Does.leave {tasks : List Task} {f : Pass σ → Pass σ}
    (h : Does setup maxDepth (depth + 1) tasks f) {p : Pass σ} (hp : p.depth = depth + 1) :
    (f p).depth - 1 = depth ∧
      Agenda.Leads setup maxDepth ⟨tasks ++ [.leave], p⟩
        ⟨[], { f p with depth := (f p).depth - 1 }⟩ := by
  obtain ⟨hdepth, hleads⟩ := h p hp
  refine ⟨by rw [hdepth, Nat.add_sub_cancel], ?_⟩
  exact (hleads.append [.leave]).trans (.single (Agenda.next_cons .leave [] (f p)))

/-- **The task of rendering a node renders it**, with as many levels left as the limit allows at
the current depth. -/
theorem render_does (setup : PassSetup) (maxDepth : Nat) : ∀ {levels depth : Nat},
    levels = maxDepth - depth →
      Visits setup maxDepth depth (Pass.render (σ := σ) setup levels)
  | 0, depth, hlevels, id, p, hp => by
    refine ⟨hp, .single ?_⟩
    rw [Agenda.next_cons, Task.unfold, if_pos (by omega)]
    rfl
  | levels + 1, depth, hlevels, id, p, hp => by
    have h : Visits setup maxDepth (depth + 1) (Pass.render (σ := σ) setup levels) :=
      render_does setup maxDepth (by omega)
    have hlt : ¬ maxDepth ≤ p.depth := by omega
    rw [Pass.render, Pass.dispatch]
    cases hclaim : Pass.claim? setup id with
    | some actions =>
      have hnext : Agenda.next setup maxDepth ⟨[.render id], p⟩ =
          some ⟨actions.map (.perform id) ++ [.leave],
            { p with depth := p.depth + 1, visits := (id, p.depth + 1) :: p.visits }⟩ := by
        rw [Agenda.next_cons, Task.unfold, if_neg hlt, hclaim, List.append_nil]
      obtain ⟨hdepth, hleads⟩ := (h.foldl_perform id actions).leave
        (p := { p with depth := p.depth + 1, visits := (id, p.depth + 1) :: p.visits })
        (congrArg (· + 1) hp)
      exact ⟨hdepth, .head hnext hleads⟩
    | none =>
      have hnext : Agenda.next setup maxDepth ⟨[.render id], p⟩ =
          some ⟨[.rule id, .leave], { p with depth := p.depth + 1 }⟩ := by
        rw [Agenda.next_cons, Task.unfold, if_neg hlt, hclaim, List.append_nil]
      obtain ⟨hdepth, hleads⟩ := (h.defaultRule id).leave
        (p := { p with depth := p.depth + 1 }) (congrArg (· + 1) hp)
      exact ⟨hdepth, .head hnext hleads⟩

/-- The agenda of a pass at its beginning. -/
def Agenda.begin (start : Option NodeId) (sink : σ) : Agenda σ :=
  ⟨start.toList.map .render, { sink }⟩

/-- **A pass is done in the end**, whatever its composer does, and the agenda leaves its result. -/
theorem leads_run (setup : PassSetup) (maxDepth : Nat) (start : Option NodeId) (sink : σ) :
    Agenda.Leads setup maxDepth (.begin start sink) ⟨[], Pass.run setup maxDepth start sink⟩ := by
  have h : Visits setup maxDepth 0 (Pass.render (σ := σ) setup maxDepth) :=
    render_does setup maxDepth rfl
  exact (h.renderAll start.toList { sink } rfl).2

end

end MarkdownTree
