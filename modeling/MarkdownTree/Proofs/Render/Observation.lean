import MarkdownTree.Proofs.Render.Depth

/-!
# What can be observed of a pass

A pass enters nodes and returns from them, stops at nodes beyond its limit, makes calls and reports.
The steps of an agenda show all of this, in the order in which it happens, and what a pass leaves
behind can be read off these observations.

* `Observation` — what can be observed of a pass.
* `Agenda.Runs` — runs of an agenda with what is observed in them.
* `Runs.pass_eq` — the observations of a run determine what it leaves.
* `Runs.mem_rendered_iff` — the nodes that are observed are those that come up for rendering.
-/

namespace MarkdownTree

/-- Something that happens in a pass. -/
inductive Observation
  /-- A node is rendered. Its level is counted from one. -/
  | enter (id : NodeId) (level : Nat)
  /-- A node is beyond the limit; it is reported and left out. -/
  | stop (id : NodeId) (level : Nat)
  /-- The node that was entered last, of those not yet returned from, is returned from. -/
  | leave
  | call (call : Call)
  | report (id : NodeId) (kind : DiagnosticKind)
deriving DecidableEq, Repr, Inhabited

namespace Observation

/-- The call that is made. -/
def call? : Observation → Option Call
  | .call c => some c
  | _ => none

/-- The diagnostic that is recorded. -/
def diagnostic? (doc : Document) : Observation → Option Diagnostic
  | .stop id _ => some (.of doc id .depthExceeded)
  | .report id kind => some (.of doc id kind)
  | _ => none

/-- The node that comes up for rendering, with its level. -/
def rendered? : Observation → Option (NodeId × Nat)
  | .enter id level | .stop id level => some (id, level)
  | _ => none

/-- Whether a node is given to the composer. -/
def isVisit (setup : PassSetup) : Observation → Bool
  | .enter id _ => (Pass.claim? setup id).isSome
  | _ => false

end Observation

/-- The nodes that are given to the composer, with their levels. -/
def PassSetup.visits (setup : PassSetup) (os : List Observation) : List (NodeId × Nat) :=
  (os.filter (Observation.isVisit setup)).filterMap Observation.rendered?

theorem PassSetup.visits_sublist (setup : PassSetup) (os : List Observation) :
    (setup.visits os).Sublist (os.filterMap Observation.rendered?) :=
  List.filter_sublist.filterMap _

theorem mem_filterMap_rendered?_iff {os : List Observation} {id : NodeId} {level : Nat} :
    (id, level) ∈ os.filterMap Observation.rendered? ↔
      .enter id level ∈ os ∨ .stop id level ∈ os := by
  rw [List.mem_filterMap]
  constructor
  · rintro ⟨o, ho, hrendered⟩
    cases o with
    | enter c l =>
      cases hrendered
      exact .inl ho
    | stop c l =>
      cases hrendered
      exact .inr ho
    | _ => cases hrendered
  · rintro (h | h)
    · exact ⟨_, h, rfl⟩
    · exact ⟨_, h, rfl⟩

theorem PassSetup.mem_visits_iff {setup : PassSetup} {os : List Observation} {id : NodeId}
    {level : Nat} :
    (id, level) ∈ setup.visits os ↔ .enter id level ∈ os ∧ (Pass.claim? setup id).isSome := by
  rw [visits, mem_filterMap_rendered?_iff, List.mem_filter, List.mem_filter]
  simp [Observation.isVisit]

/-! ## Runs of an agenda -/

/-- What is observed of a task that is begun at a depth. -/
def Task.observation? (maxDepth depth : Nat) : Task → Option Observation
  | .render id =>
    some (if maxDepth ≤ depth then .stop id (depth + 1) else .enter id (depth + 1))
  | .rule _ | .perform _ _ => none
  | .emit call => some (.call call)
  | .report id kind => some (.report id kind)
  | .leave => some .leave

namespace Agenda

variable {σ : Type} [Sink σ] {setup : PassSetup} {maxDepth : Nat}

omit [Sink σ] in
/-- What is observed of the next step. -/
def observation? (maxDepth : Nat) (a : Agenda σ) : Option Observation :=
  a.tasks.head?.bind (Task.observation? maxDepth a.pass.depth)

/-- Whether an agenda becomes another one in some steps in which the given things happen. -/
inductive Runs (setup : PassSetup) (maxDepth : Nat) :
    Agenda σ → List Observation → Agenda σ → Prop
  | refl (a : Agenda σ) : Runs setup maxDepth a [] a
  | step {a b c : Agenda σ} {os : List Observation} : a.next setup maxDepth = some b →
      Runs setup maxDepth b os c →
      Runs setup maxDepth a ((a.observation? maxDepth).toList ++ os) c

namespace Runs

variable {a b c : Agenda σ} {os os' : List Observation}

theorem single (h : a.next setup maxDepth = some b) :
    Runs setup maxDepth a (a.observation? maxDepth).toList b := by
  have h := step h (.refl b)
  rwa [List.append_nil] at h

theorem trans (h : Runs setup maxDepth a os b) (h' : Runs setup maxDepth b os' c) :
    Runs setup maxDepth a (os ++ os') c := by
  induction h with
  | refl => exact h'
  | step hnext _ ih =>
    rw [List.append_assoc]
    exact .step hnext (ih h')

/-- Tasks that come later have to wait and change nothing before. -/
theorem append (h : Runs setup maxDepth a os b) (later : List Task) :
    Runs setup maxDepth ⟨a.tasks ++ later, a.pass⟩ os ⟨b.tasks ++ later, b.pass⟩ := by
  induction h with
  | refl => exact .refl _
  | @step a b c os hnext _ ih =>
    have hobserved :
        observation? maxDepth ⟨a.tasks ++ later, a.pass⟩ = a.observation? maxDepth := by
      obtain ⟨_ | ⟨t, ts⟩, p⟩ := a
      · cases hnext
      · rfl
    rw [← hobserved]
    exact .step (next_append hnext later) ih

theorem leads (h : Runs setup maxDepth a os b) : Leads setup maxDepth a b := by
  induction h with
  | refl => exact .refl
  | step hnext _ ih => exact .head hnext ih

/-- An agenda has one end only. -/
theorem pass_unique {p q : Pass σ} (h : Runs setup maxDepth a os ⟨[], p⟩)
    (h' : Leads setup maxDepth a ⟨[], q⟩) : p = q := by
  generalize hend : (⟨[], p⟩ : Agenda σ) = e at h
  induction h with
  | refl =>
    subst hend
    rcases h'.cases_head with heq | ⟨_, hnext, _⟩
    · cases heq
      rfl
    · cases hnext
  | step hnext _ ih =>
    rcases h'.cases_head with rfl | ⟨_, hnext', hleads⟩
    · cases hnext
    · rw [hnext] at hnext'
      cases hnext'
      exact ih hleads hend

end Runs

end Agenda

/-! ## What a run leaves -/

namespace Pass

variable {σ : Type} [Sink σ] {setup : PassSetup}

/-- What something that happens does to a pass. -/
def observe (setup : PassSetup) (p : Pass σ) : Observation → Pass σ
  | .enter id level =>
    { p with
      depth := level
      visits := setup.visits [.enter id level] ++ p.visits }
  | .stop id _ => p.report setup id .depthExceeded
  | .leave => { p with depth := p.depth - 1 }
  | .call c => p.emit setup c
  | .report id kind => p.report setup id kind

theorem sink_foldl_observe : ∀ (os : List Observation) (p : Pass σ),
    (os.foldl (observe setup) p).sink =
      (os.filterMap Observation.call?).foldl (Sink.emit setup.doc) p.sink
  | [], _ => rfl
  | o :: os, p => by
    rw [List.foldl_cons, sink_foldl_observe os]
    cases o <;> rfl

theorem diagnostics_foldl_observe : ∀ (os : List Observation) (p : Pass σ),
    (os.foldl (observe setup) p).diagnostics =
      (os.filterMap (Observation.diagnostic? setup.doc)).reverse ++ p.diagnostics
  | [], _ => rfl
  | o :: os, p => by
    rw [List.foldl_cons, diagnostics_foldl_observe os, List.filterMap_cons]
    cases o <;> simp [observe, report, emit, Observation.diagnostic?]

theorem visits_foldl_observe : ∀ (os : List Observation) (p : Pass σ),
    (os.foldl (observe setup) p).visits = (setup.visits os).reverse ++ p.visits
  | [], _ => rfl
  | o :: os, p => by
    rw [List.foldl_cons, visits_foldl_observe os]
    cases o with
    | enter id level =>
      by_cases h : (claim? setup id).isSome = true <;>
        simp [observe, PassSetup.visits, Observation.isVisit, Observation.rendered?, h]
    | _ => rfl

end Pass

namespace Agenda

variable {σ : Type} [Sink σ] {setup : PassSetup} {maxDepth : Nat} {a b : Agenda σ}

/-- One step changes the pass as what is observed of it says. -/
theorem pass_next (h : a.next setup maxDepth = some b) :
    b.pass = (a.observation? maxDepth).toList.foldl (Pass.observe setup) a.pass := by
  obtain ⟨_ | ⟨t, ts⟩, p⟩ := a
  · cases h
  rw [next_cons] at h
  cases h
  cases t with
  | render id =>
    by_cases hlimit : maxDepth ≤ p.depth
    · simp [observation?, Task.observation?, Task.unfold, Pass.observe, hlimit]
    · cases hclaim : Pass.claim? setup id <;>
        simp [observation?, Task.observation?, Task.unfold, Pass.observe, hlimit, hclaim,
          PassSetup.visits, Observation.isVisit, Observation.rendered?]
  | _ => rfl

/-- **The observations of a run determine what it leaves.** -/
theorem Runs.pass_eq {os : List Observation} (h : Runs setup maxDepth a os b) :
    b.pass = os.foldl (Pass.observe setup) a.pass := by
  induction h with
  | refl => rfl
  | step hnext _ ih => rw [ih, pass_next hnext, List.foldl_append]

/-- Whether a pass comes to render a node at a level, within its limit or just beyond. -/
def Reaches (setup : PassSetup) (maxDepth : Nat) (a : Agenda σ) (id : NodeId) (level : Nat) :
    Prop :=
  ∃ b later, Leads setup maxDepth a b ∧ b.tasks = .render id :: later ∧ level = b.pass.depth + 1

omit [Sink σ] in
theorem mem_observation?_iff {id : NodeId} {level : Nat} :
    (id, level) ∈ (a.observation? maxDepth).toList.filterMap Observation.rendered? ↔
      ∃ later, a.tasks = .render id :: later ∧ level = a.pass.depth + 1 := by
  obtain ⟨_ | ⟨t, ts⟩, p⟩ := a
  · simp [observation?]
  cases t with
  | render c =>
    by_cases hlimit : maxDepth ≤ p.depth <;>
      simp [observation?, Task.observation?, Observation.rendered?, hlimit, eq_comm]
  | _ => simp [observation?, Task.observation?, Observation.rendered?]

/-- **The nodes that are observed are those that come up for rendering.** -/
theorem Runs.mem_rendered_iff {os : List Observation} (h : Runs setup maxDepth a os b)
    (hdone : b.tasks = []) {id : NodeId} {level : Nat} :
    (id, level) ∈ os.filterMap Observation.rendered? ↔ a.Reaches setup maxDepth id level := by
  induction h with
  | refl a =>
    refine iff_of_false List.not_mem_nil ?_
    rintro ⟨b, later, hleads, htasks, -⟩
    rcases hleads.cases_head with rfl | ⟨_, hnext, -⟩
    · rw [hdone] at htasks
      cases htasks
    · rw [next, hdone] at hnext
      cases hnext
  | @step a b c os hnext _ ih =>
    rw [List.filterMap_append, List.mem_append, ih hdone, mem_observation?_iff]
    constructor
    · rintro (⟨later, htasks, hlevel⟩ | ⟨d, later, hleads, htasks, hlevel⟩)
      · exact ⟨a, later, .refl, htasks, hlevel⟩
      · exact ⟨d, later, .head hnext hleads, htasks, hlevel⟩
    · rintro ⟨d, later, hleads, htasks, hlevel⟩
      rcases hleads.cases_head with rfl | ⟨b', hnext', hleads⟩
      · exact .inl ⟨later, htasks, hlevel⟩
      · rw [hnext] at hnext'
        cases hnext'
        exact .inr ⟨d, later, hleads, htasks, hlevel⟩

/-- A node is entered within the limit and stopped at beyond it. -/
theorem Runs.level_of_mem {os : List Observation} (h : Runs setup maxDepth a os b) :
    (∀ id level, .enter id level ∈ os → level ≤ maxDepth) ∧
      ∀ id level, .stop id level ∈ os → maxDepth < level := by
  induction h with
  | refl => simp
  | @step a b c os hnext _ ih =>
    obtain ⟨_ | ⟨t, ts⟩, p⟩ := a
    · cases hnext
    have hhead : (∀ id level, .enter id level ∈ (t.observation? maxDepth p.depth).toList →
        level ≤ maxDepth) ∧
        ∀ id level, .stop id level ∈ (t.observation? maxDepth p.depth).toList →
          maxDepth < level := by
      cases t with
      | render id =>
        by_cases hlimit : maxDepth ≤ p.depth
        · simp only [Task.observation?, hlimit, if_true, Option.toList_some, List.mem_singleton]
          refine ⟨fun _ _ h => (nomatch h), fun c l h => ?_⟩
          cases h
          omega
        · simp only [Task.observation?, hlimit, if_false, Option.toList_some, List.mem_singleton]
          refine ⟨fun c l h => ?_, fun _ _ h => nomatch h⟩
          cases h
          omega
      | _ => simp [Task.observation?]
    constructor
    · intro id level hmem
      exact (List.mem_append.mp hmem).elim (hhead.1 id level) (ih.1 id level)
    · intro id level hmem
      exact (List.mem_append.mp hmem).elim (hhead.2 id level) (ih.2 id level)

theorem Runs.mem_enter_iff {os : List Observation} (h : Runs setup maxDepth a os b)
    (hdone : b.tasks = []) {id : NodeId} {level : Nat} :
    .enter id level ∈ os ↔ a.Reaches setup maxDepth id level ∧ level ≤ maxDepth := by
  rw [← h.mem_rendered_iff hdone, mem_filterMap_rendered?_iff]
  constructor
  · exact fun henter => ⟨.inl henter, h.level_of_mem.1 id level henter⟩
  · rintro ⟨henter | hstop, hlevel⟩
    · exact henter
    · exact absurd hlevel (Nat.not_le_of_lt (h.level_of_mem.2 id level hstop))

theorem Runs.mem_stop_iff {os : List Observation} (h : Runs setup maxDepth a os b)
    (hdone : b.tasks = []) {id : NodeId} {level : Nat} :
    .stop id level ∈ os ↔ a.Reaches setup maxDepth id level ∧ maxDepth < level := by
  rw [← h.mem_rendered_iff hdone, mem_filterMap_rendered?_iff]
  constructor
  · exact fun hstop => ⟨.inr hstop, h.level_of_mem.2 id level hstop⟩
  · rintro ⟨henter | hstop, hlevel⟩
    · exact absurd hlevel (Nat.not_lt_of_le (h.level_of_mem.1 id level henter))
    · exact hstop

end Agenda

end MarkdownTree
