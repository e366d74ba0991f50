import MarkdownTree.Proofs.Layout.Grammar
import MarkdownTree.Proofs.Render.Clean

/-!
# Calls that do not balance

A layout builder ignores an end that does not fit the innermost container, and it closes what is
still open in the end. So it takes calls that do not balance for calls that do: the same ones
without the ends that do not fit, and with the ends that are missing behind them.

* `Call.situated` — calls with the containers that are open when they are made.
* `Call.repaired` — the calls that a builder takes some calls for.
* `LayoutBuilder.log` — the log of calls and of finishing behind them, event by event.
* `emit_warnings` — the warnings of one call.
* `mends_missingEnds` — the missing ends do what finishing does, and leave no warning of it.
* `layout_of_repaired` — repaired calls make the same layout, and their log is the same but for the
  warnings of the repairs.
-/

namespace MarkdownTree

/-! ## Repaired calls -/

namespace Call

/-- The containers that are open behind a call, innermost first, given those in front of it. An end
that does not fit closes nothing. -/
def openBehind (opens : List ContainerKind) (call : Call) : List ContainerKind :=
  match call.closed? with
  | some kind => if opens.head? = some kind then opens.tail else opens
  | none => (call.opened?.map OpenContainer.kind).toList ++ opens

/-- The warning of an end that does not fit the innermost of the open containers. -/
def unbalanced? (opens : List ContainerKind) (call : Call) : Option LayoutWarning :=
  match call.closed? with
  | some kind => if opens.head? = some kind then none else some (.unbalancedEnd kind opens.head?)
  | none => none

/-- Some calls, each with the containers that are open when it is made. -/
def situated : List ContainerKind → List Call → List (List ContainerKind × Call)
  | _, [] => []
  | opens, call :: calls => (opens, call) :: situated (call.openBehind opens) calls

/-- The warnings of the ends among some calls that do not fit. -/
def strays (opens : List ContainerKind) (calls : List Call) : List LayoutWarning :=
  (situated opens calls).filterMap fun s => s.2.unbalanced? s.1

/-- Some calls without the ends that do not fit, and behind them the ends of the containers that are
still open, innermost first. -/
def repaired (opens : List ContainerKind) (calls : List Call) : List Call :=
  ((situated opens calls).filter fun s => (s.2.unbalanced? s.1).isNone).map Prod.snd ++
    (calls.foldl openBehind opens).map ContainerKind.stop

variable {opens : List ContainerKind} {call : Call}

theorem repaired_cons_of_fits (h : call.unbalanced? opens = none) (calls : List Call) :
    repaired opens (call :: calls) = call :: repaired (call.openBehind opens) calls := by
  simp [repaired, situated, h]

theorem strays_cons_of_fits (h : call.unbalanced? opens = none) (calls : List Call) :
    strays opens (call :: calls) = strays (call.openBehind opens) calls := by
  simp [strays, situated, h]

theorem closed?_of_unbalanced {w : LayoutWarning} (h : call.unbalanced? opens = some w) :
    ∃ kind, call.closed? = some kind ∧ opens.head? ≠ some kind ∧
      w = .unbalancedEnd kind opens.head? := by
  unfold unbalanced? at h
  split at h
  · next kind hclosed =>
    split at h
    · cases h
    · next hne => exact ⟨kind, hclosed, hne, (Option.some.inj h).symm⟩
  · cases h

theorem openBehind_of_unbalanced {w : LayoutWarning} (h : call.unbalanced? opens = some w) :
    call.openBehind opens = opens := by
  obtain ⟨kind, hclosed, hne, -⟩ := closed?_of_unbalanced h
  simp only [openBehind, hclosed, if_neg hne]

theorem repaired_cons_of_unbalanced {w : LayoutWarning} (h : call.unbalanced? opens = some w)
    (calls : List Call) : repaired opens (call :: calls) = repaired opens calls := by
  simp [repaired, situated, h, openBehind_of_unbalanced h]

theorem strays_cons_of_unbalanced {w : LayoutWarning} (h : call.unbalanced? opens = some w)
    (calls : List Call) : strays opens (call :: calls) = w :: strays opens calls := by
  simp [strays, situated, h, openBehind_of_unbalanced h]

theorem unbalanced?_of_block? {doc : Document} {block : LayoutBlock}
    (h : call.block? doc = some block) : call.unbalanced? opens = none := by
  cases call with
  | quoteEnd => cases h
  | headingEnd => cases h
  | listEnd => cases h
  | itemEnd => cases h
  | _ => rfl

theorem unbalanced?_of_opened? {c : OpenContainer} (h : call.opened? = some c) :
    call.unbalanced? opens = none := by
  cases call with
  | quoteEnd => cases h
  | headingEnd => cases h
  | listEnd => cases h
  | itemEnd => cases h
  | _ => rfl

theorem unbalanced?_of_closed? {kind : ContainerKind} (h : call.closed? = some kind) :
    call.unbalanced? opens =
      if opens.head? = some kind then none else some (.unbalancedEnd kind opens.head?) := by
  rw [unbalanced?, h]

end Call

/-! ## Warnings and the rest of a builder -/

namespace LayoutBuilder

/-- The kinds of the open containers, innermost first. -/
def opens (b : LayoutBuilder) : List ContainerKind :=
  b.stack.map OpenContainer.kind

/-- The builder with its warnings taken off. -/
def quiet (b : LayoutBuilder) : LayoutBuilder :=
  { b with warnings := [] }

/-- The builder with some earlier warnings. -/
def behind (b : LayoutBuilder) (ws : List LayoutWarning) : LayoutBuilder :=
  { b with warnings := ws ++ b.warnings }

theorem quiet_behind (b : LayoutBuilder) : b.quiet.behind b.warnings = b := by
  simp [quiet, behind]

-- What a builder does depends on its blocks and its stack only.
section

variable (b : LayoutBuilder) (ws : List LayoutWarning)

theorem warn_behind (w : LayoutWarning) : (b.behind ws).warn w = (b.warn w).behind ws := by
  simp [behind, warn]

theorem push_behind (block : LayoutBlock) : (b.behind ws).push block = (b.push block).behind ws := by
  obtain ⟨blocks, stack, warnings⟩ := b
  cases stack with
  | nil => rfl
  | cons c stack =>
    cases c with
    | list kind startIndex items =>
      exact warn_behind ⟨blocks, .list kind startIndex (items ++ [[block]]) :: stack, warnings⟩ ws _
    | _ => rfl

theorem foldl_push_behind (content : List LayoutBlock) :
    content.foldl push (b.behind ws) = (content.foldl push b).behind ws := by
  induction content generalizing b with
  | nil => rfl
  | cons block content ih => rw [List.foldl_cons, push_behind, ih, List.foldl_cons]

theorem shut_behind (c : OpenContainer) : (b.behind ws).shut c = (b.shut c).behind ws := by
  cases c with
  | quote content => exact b.push_behind ws _
  | heading level content => exact b.push_behind ws _
  | list kind startIndex items => exact b.push_behind ws _
  | item content =>
    have hdissolve : content.foldl push ((b.behind ws).warn .itemOutsideList) =
        (content.foldl push (b.warn .itemOutsideList)).behind ws := by
      rw [warn_behind, foldl_push_behind]
    obtain ⟨blocks, stack, warnings⟩ := b
    cases stack with
    | nil => exact hdissolve
    | cons c stack =>
      cases c with
      | list kind startIndex items => rfl
      | _ => exact hdissolve

theorem leave_behind (expected : ContainerKind) :
    (b.behind ws).leave expected = (b.leave expected).behind ws := by
  obtain ⟨blocks, stack, warnings⟩ := b
  cases stack with
  | nil => exact warn_behind _ ws _
  | cons c stack =>
    simp only [leave, behind]
    split
    · exact shut_behind ⟨blocks, stack, warnings⟩ ws c
    · exact warn_behind ⟨blocks, c :: stack, warnings⟩ ws _

theorem emit_behind (doc : Document) (call : Call) :
    emit doc (b.behind ws) call = (emit doc b call).behind ws := by
  cases call with
  | quoteStart => rfl
  | headingStart level => rfl
  | listStart kind startIndex => rfl
  | itemStart index => rfl
  | quoteEnd => exact b.leave_behind ws _
  | headingEnd => exact b.leave_behind ws _
  | listEnd => exact b.leave_behind ws _
  | itemEnd => exact b.leave_behind ws _
  | _ => exact b.push_behind ws _

theorem foldl_emit_behind (doc : Document) (calls : List Call) :
    calls.foldl (emit doc) (b.behind ws) = (calls.foldl (emit doc) b).behind ws := by
  induction calls generalizing b with
  | nil => rfl
  | cons call calls ih => rw [List.foldl_cons, emit_behind, ih, List.foldl_cons]

theorem closeOpen_behind (n : Nat) : closeOpen n (b.behind ws) = (closeOpen n b).behind ws := by
  induction n generalizing b with
  | zero => rfl
  | succ n ih =>
    obtain ⟨blocks, stack, warnings⟩ := b
    cases stack with
    | nil => rfl
    | cons c stack =>
      let rest : LayoutBuilder := ⟨blocks, stack, warnings⟩
      have hstep : closeOpen (n + 1) ((⟨blocks, c :: stack, warnings⟩ : LayoutBuilder).behind ws) =
          closeOpen n (((rest.behind ws).warn (.unterminated c.kind)).shut c) := rfl
      rw [hstep, warn_behind, shut_behind, ih]
      rfl

theorem finish_behind : (b.behind ws).finish = b.finish.behind ws :=
  b.closeOpen_behind ws b.height

end

/-- Builders that differ in their warnings only finish alike. -/
theorem finish_congr {b b' : LayoutBuilder} (h : b.quiet = b'.quiet) (doc : Document)
    (calls : List Call) :
    (calls.foldl (emit doc) b).finish.quiet = (calls.foldl (emit doc) b').finish.quiet := by
  rw [← b.quiet_behind, ← b'.quiet_behind, h, foldl_emit_behind, foldl_emit_behind, finish_behind,
    finish_behind]
  rfl

/-! ## What is open -/

@[simp] theorem opens_warn (b : LayoutBuilder) (w : LayoutWarning) : (b.warn w).opens = b.opens :=
  rfl

@[simp] theorem opens_add (b : LayoutBuilder) (blocks : List LayoutBlock) :
    (b.add blocks).opens = b.opens := by
  obtain ⟨_, stack, _⟩ := b
  cases stack <;> simp [add, opens]

@[simp] theorem opens_push (b : LayoutBuilder) (block : LayoutBlock) :
    (b.push block).opens = b.opens := by
  rcases b.push_cases block with ⟨-, h⟩ | ⟨-, h⟩ <;> simp [h]

@[simp] theorem opens_shut (b : LayoutBuilder) (c : OpenContainer) : (b.shut c).opens = b.opens := by
  rcases b.shut_cases c with
    ⟨block, -, h⟩ | ⟨content, kind, startIndex, items, stack, -, hb, h⟩ | ⟨content, -, -, h⟩
  · rw [h, opens_push]
  · rw [h, opens, opens, hb]
    rfl
  · rw [h, opens_add, opens_warn]

theorem head?_opens (b : LayoutBuilder) : b.opens.head? = b.stack.head?.map OpenContainer.kind :=
  List.head?_map

/-- **The open containers of a builder are those that the calls leave open.** -/
theorem opens_emit (doc : Document) (b : LayoutBuilder) (call : Call) :
    (emit doc b call).opens = call.openBehind b.opens := by
  have hleave : ∀ kind, (b.leave kind).opens =
      if b.opens.head? = some kind then b.opens.tail else b.opens := by
    intro kind
    rcases b.leave_cases kind with ⟨c, stack, hb, rfl, h⟩ | ⟨hne, h⟩
    · rw [h, opens_shut, opens, opens, hb]
      simp
    · rw [h, opens_warn, head?_opens, if_neg hne]
  cases call with
  | quoteStart => rfl
  | headingStart level => rfl
  | listStart kind startIndex => rfl
  | itemStart index => rfl
  | quoteEnd => exact hleave .quote
  | headingEnd => exact hleave .heading
  | listEnd => exact hleave .list
  | itemEnd => exact hleave .item
  | _ => exact b.opens_push _

theorem opens_foldl_emit (doc : Document) : ∀ (calls : List Call) (b : LayoutBuilder),
    (calls.foldl (emit doc) b).opens = calls.foldl Call.openBehind b.opens
  | [], _ => rfl
  | call :: calls, b => by
    rw [List.foldl_cons, opens_foldl_emit doc calls, opens_emit, List.foldl_cons]

/-! ## The log -/

/-- The log of a builder that receives some calls and is finished behind them. A call logs what is
left out of the spans or the table that it shows, and then its warnings. -/
def log (doc : Document) : LayoutBuilder → List Call → List LogEvent
  | b, [] => b.quiet.finish.warnings.map (·.event)
  | b, call :: calls =>
    let b' := emit doc b.quiet call
    call.events doc ++ b'.warnings.map (·.event) ++ log doc b' calls

/-- Some warnings that say nothing of an end. -/
def Plain (ws : List LayoutWarning) : Prop :=
  ∀ w ∈ ws, w = .betweenItems ∨ w = .itemOutsideList

theorem plain_warnings_push (b : LayoutBuilder) (block : LayoutBlock) :
    ∃ ws, Plain ws ∧ (b.push block).warnings = b.warnings ++ ws := by
  rcases b.push_cases block with ⟨-, h⟩ | ⟨-, h⟩
  · exact ⟨[], by simp [Plain], by rw [h, warnings_add, List.append_nil]⟩
  · exact ⟨[.betweenItems], by simp [Plain], by rw [h, warn, warnings_add]⟩

theorem plain_warnings_shut (b : LayoutBuilder) (c : OpenContainer) :
    ∃ ws, Plain ws ∧ (b.shut c).warnings = b.warnings ++ ws := by
  rcases b.shut_cases c with
    ⟨block, -, h⟩ | ⟨content, kind, startIndex, items, stack, -, -, h⟩ | ⟨content, -, -, h⟩
  · rw [h]
    exact b.plain_warnings_push block
  · exact ⟨[], by simp [Plain], by rw [h, List.append_nil]⟩
  · exact ⟨[.itemOutsideList], by simp [Plain], by rw [h, warnings_add, warn]⟩

/-- **The warnings of a call**: some that say nothing of an end, or that of an end that does not
fit. -/
theorem emit_warnings (doc : Document) (b : LayoutBuilder) (call : Call) :
    ∃ ws, Plain ws ∧ (emit doc b call).warnings =
      b.warnings ++ ws ++ (call.unbalanced? b.opens).toList := by
  rcases emit_cases doc b call with ⟨block, hcall, h⟩ | ⟨c, hcall, h⟩ | ⟨kind, hcall, h⟩
  · rw [h, Call.unbalanced?_of_block? hcall, Option.toList_none]
    simpa using b.plain_warnings_push block
  · rw [h, Call.unbalanced?_of_opened? hcall]
    exact ⟨[], by simp [Plain], by simp [enter]⟩
  · rw [h, Call.unbalanced?_of_closed? hcall, head?_opens]
    rcases b.leave_cases kind with ⟨c, stack, hb, rfl, h⟩ | ⟨hne, h⟩
    · have hfits : (c :: stack).head?.map OpenContainer.kind = some c.kind := rfl
      rw [h, hb, if_pos hfits, Option.toList_none]
      simpa using plain_warnings_shut { b with stack } c
    · rw [h, if_neg hne]
      exact ⟨[], by simp [Plain], by simp [warn]⟩

/-- An end that does not fit leaves its warning and nothing else. -/
theorem emit_of_unbalanced {doc : Document} {b : LayoutBuilder} {call : Call} {w : LayoutWarning}
    (h : call.unbalanced? b.opens = some w) : emit doc b call = b.warn w := by
  rcases emit_cases doc b call with ⟨block, hcall, -⟩ | ⟨c, hcall, -⟩ | ⟨kind, hcall, hemit⟩
  · rw [Call.unbalanced?_of_block? hcall] at h
    cases h
  · rw [Call.unbalanced?_of_opened? hcall] at h
    cases h
  · rw [Call.unbalanced?_of_closed? hcall, head?_opens] at h
    rcases b.leave_cases kind with ⟨c, stack, hb, rfl, -⟩ | ⟨hne, hleave⟩
    · rw [hb, if_pos (by rfl)] at h
      cases h
    · rw [if_neg hne] at h
      rw [hemit, hleave, Option.some.inj h]

end LayoutBuilder

/-- Whether an event says that an end was ignored. -/
def LogEvent.ignoresEnd (e : LogEvent) : Bool :=
  e.message = "Ignoring unbalanced end call"

/-- Whether an event says that a container was still open in the end. -/
def LogEvent.closesContainer (e : LogEvent) : Bool :=
  e.message = "Closing unterminated container"

/-- Whether an event is none of the two. -/
def LogEvent.isPlain (e : LogEvent) : Bool :=
  !e.ignoresEnd && !e.closesContainer

namespace LayoutBuilder

variable {doc : Document} {b : LayoutBuilder} {call : Call} {calls calls' : List Call}
  {strays : List LayoutWarning} {left : List ContainerKind} {w : LayoutWarning}

/-- What a call logs by itself is no warning, and says nothing of an end. -/
theorem of_mem_events {e : LogEvent} (h : e ∈ call.events doc) :
    e.level = .debug ∧ e.isPlain = true := by
  cases call with
  | text source fadeOut =>
    obtain ⟨_, -, rfl⟩ := List.mem_map.mp h
    exact ⟨rfl, rfl⟩
  | table root =>
    obtain ⟨skip, -, rfl⟩ := List.mem_map.mp h
    cases skip <;> exact ⟨rfl, rfl⟩
  | _ => cases h

theorem Plain.isPlain_event {ws : List LayoutWarning} (h : Plain ws) :
    ∀ e ∈ ws.map (·.event), e.isPlain = true := by
  intro e he
  obtain ⟨w, hw, rfl⟩ := List.mem_map.mp he
  rcases h w hw with rfl | rfl <;> rfl

/-- What a filter leaves of plain events. -/
theorem filter_of_isPlain {es : List LogEvent} (h : ∀ e ∈ es, e.isPlain = true) :
    es.filter LogEvent.isPlain = es ∧ es.filter LogEvent.ignoresEnd = [] ∧
      es.filter LogEvent.closesContainer = [] := by
  refine ⟨List.filter_eq_self.mpr h, List.filter_eq_nil_iff.mpr fun e he => ?_,
    List.filter_eq_nil_iff.mpr fun e he => ?_⟩
  · have := h e he
    simp_all [LogEvent.isPlain]
  · have := h e he
    simp_all [LogEvent.isPlain]

/-! ## Repaired calls make the same layout -/

/-- What some calls and the same calls repaired have in common for a builder. `strays` are the
warnings of the ends that do not fit, `left` the containers that are still open in the end. -/
structure Mends (doc : Document) (b : LayoutBuilder) (calls calls' : List Call)
    (strays : List LayoutWarning) (left : List ContainerKind) : Prop where
  finish_eq : (calls'.foldl (emit doc) b).finish.quiet = (calls.foldl (emit doc) b).finish.quiet
  log_eq : log doc b calls' = (log doc b calls).filter LogEvent.isPlain
  ignored : (log doc b calls).filter LogEvent.ignoresEnd = strays.map (·.event)
  closed : (log doc b calls).filter LogEvent.closesContainer =
    left.map fun kind => (LayoutWarning.unterminated kind).event

theorem quiet_emit (doc : Document) (b : LayoutBuilder) (call : Call) :
    (emit doc b.quiet call).quiet = (emit doc b call).quiet := by
  have hemit := b.quiet.emit_behind b.warnings doc call
  rw [quiet_behind] at hemit
  rw [hemit]
  rfl

theorem log_congr {b' : LayoutBuilder} (h : b.quiet = b'.quiet) (calls : List Call) :
    log doc b calls = log doc b' calls := by
  cases calls <;> rw [log, log, h]

/-- A call in front that fits. -/
theorem Mends.fits (h : Mends doc (emit doc b.quiet call) calls calls' strays left)
    (hfits : call.unbalanced? b.opens = none) :
    Mends doc b (call :: calls) (call :: calls') strays left := by
  obtain ⟨ws, hws, hwarnings⟩ := emit_warnings doc b.quiet call
  have hopens : b.quiet.opens = b.opens := rfl
  rw [hopens, hfits, Option.toList_none, List.append_nil] at hwarnings
  have hplain : ∀ e ∈ call.events doc ++ (emit doc b.quiet call).warnings.map (·.event),
      e.isPlain = true := by
    rw [hwarnings, List.forall_mem_append]
    exact ⟨fun e he => (of_mem_events he).2, hws.isPlain_event⟩
  obtain ⟨hself, hignored, hclosed⟩ := filter_of_isPlain hplain
  refine ⟨?_, ?_, ?_, ?_⟩
  · have hquiet := quiet_emit doc b call
    rw [List.foldl_cons, List.foldl_cons, ← finish_congr hquiet, ← finish_congr hquiet, h.finish_eq]
  · rw [log, log, List.filter_append, hself, h.log_eq]
  · rw [log, List.filter_append, hignored, List.nil_append, h.ignored]
  · rw [log, List.filter_append, hclosed, List.nil_append, h.closed]

/-- An end in front that does not fit. -/
theorem Mends.stray (h : Mends doc b calls calls' strays left)
    (hstray : call.unbalanced? b.opens = some w) :
    Mends doc b (call :: calls) calls' (w :: strays) left := by
  obtain ⟨kind, hclosed, -, rfl⟩ := Call.closed?_of_unbalanced hstray
  have hevents : call.events doc = [] := by
    rw [Call.eq_stop_of_closed? hclosed]
    cases kind <;> rfl
  have hlog : log doc b (call :: calls) =
      (LayoutWarning.unbalancedEnd kind b.opens.head?).event :: log doc b calls := by
    have hemit : emit doc b.quiet call = b.quiet.warn (.unbalancedEnd kind b.opens.head?) :=
      emit_of_unbalanced hstray
    have hquiet : (b.quiet.warn (.unbalancedEnd kind b.opens.head?)).quiet = b.quiet := rfl
    rw [log, hemit, hevents, log_congr hquiet calls]
    rfl
  refine ⟨?_, ?_, ?_, ?_⟩
  · have hquiet : (b.warn (.unbalancedEnd kind b.opens.head?)).quiet = b.quiet := rfl
    rw [List.foldl_cons, emit_of_unbalanced hstray, finish_congr hquiet, h.finish_eq]
  · rw [hlog, List.filter_cons_of_neg Bool.false_ne_true, h.log_eq]
  · rw [hlog, List.filter_cons_of_pos rfl, h.ignored]
    rfl
  · rw [hlog, List.filter_cons_of_neg Bool.false_ne_true, h.closed]

/-- Finishing closes the innermost container like its end, with one more warning. -/
theorem finish_of_stack_cons (doc : Document) {c : OpenContainer} {stack : List OpenContainer}
    (h : b.stack = c :: stack) :
    b.quiet.finish = (emit doc b.quiet c.kind.stop).finish.behind [.unterminated c.kind] := by
  obtain ⟨blocks, _, warnings⟩ := b
  obtain rfl := h
  let rest : LayoutBuilder := ⟨blocks, stack, []⟩
  have hstop : emit doc (quiet ⟨blocks, c :: stack, warnings⟩) c.kind.stop = rest.shut c := by
    cases c <;> rfl
  have hheight : (rest.shut c).height = stack.length := rest.height_shut c
  have hwarn : rest.warn (.unterminated c.kind) = rest.behind [.unterminated c.kind] := rfl
  calc (quiet ⟨blocks, c :: stack, warnings⟩).finish
    _ = closeOpen stack.length ((rest.warn (.unterminated c.kind)).shut c) := rfl
    _ = (rest.shut c).finish.behind [.unterminated c.kind] := by
      rw [hwarn, shut_behind, closeOpen_behind, finish, hheight]
    _ = _ := by rw [hstop]

/-- A container that is open in the end, in the place of its end. -/
theorem Mends.unterminated {c : OpenContainer} {stack : List OpenContainer}
    (hb : b.stack = c :: stack) (h : Mends doc b [c.kind.stop] calls' [] left) :
    Mends doc b [] calls' [] (c.kind :: left) := by
  have hfinish := finish_of_stack_cons doc hb
  have hevents : c.kind.stop.events doc = [] := by cases c <;> rfl
  have hlog : log doc b [] =
      (LayoutWarning.unterminated c.kind).event :: log doc b [c.kind.stop] := by
    let b' := emit doc b.quiet c.kind.stop
    have hwarnings : b'.finish.warnings = b'.warnings ++ b'.quiet.finish.warnings := by
      have hbehind := b'.quiet.finish_behind b'.warnings
      rw [quiet_behind] at hbehind
      rw [hbehind, behind]
    rw [log, hfinish, behind, log, hevents, log]
    simp only [List.nil_append]
    rw [← List.map_append, ← hwarnings]
    rfl
  refine ⟨?_, ?_, ?_, ?_⟩
  · have hself : b.quiet = b.quiet.quiet := rfl
    have hquiet : b.finish.quiet = b.quiet.finish.quiet := finish_congr hself doc []
    have hends := h.finish_eq
    rw [List.foldl_cons, ← finish_congr (quiet_emit doc b _)] at hends
    rw [hends, List.foldl_nil, List.foldl_nil, hquiet, hfinish]
    rfl
  · rw [hlog, List.filter_cons_of_neg Bool.false_ne_true, h.log_eq]
  · rw [hlog, List.filter_cons_of_neg Bool.false_ne_true, h.ignored]
  · rw [hlog, List.filter_cons_of_pos rfl, h.closed]
    rfl

/-- **The missing ends do what finishing does.** -/
theorem mends_missingEnds {opens : List ContainerKind} (h : b.opens = opens) :
    Mends doc b [] (opens.map ContainerKind.stop) [] opens := by
  induction opens generalizing b with
  | nil =>
    obtain ⟨blocks, stack, warnings⟩ := b
    obtain rfl := List.map_eq_nil_iff.mp h
    exact ⟨rfl, rfl, rfl, rfl⟩
  | cons kind opens ih =>
    obtain ⟨c, stack, hb, rfl, hopens⟩ := List.map_eq_cons_iff.mp h
    have hfits : c.kind.stop.unbalanced? b.opens = none := by
      rw [h]
      cases c <;> rfl
    have hrest : (emit doc b.quiet c.kind.stop).opens = opens := by
      have hquiet : b.quiet.opens = c.kind :: opens := h
      rw [opens_emit, hquiet]
      cases c <;> rfl
    exact .unterminated hb (.fits (ih hrest) hfits)

/-- **Some calls and the same calls repaired.** -/
theorem mends_repaired (doc : Document) : ∀ (calls : List Call) (b : LayoutBuilder),
    Mends doc b calls (Call.repaired b.opens calls) (Call.strays b.opens calls)
      (calls.foldl Call.openBehind b.opens)
  | [], _ => mends_missingEnds rfl
  | call :: calls, b => by
    cases hcall : call.unbalanced? b.opens with
    | none =>
      have hrest := mends_repaired doc calls (emit doc b.quiet call)
      have hopens : (emit doc b.quiet call).opens = call.openBehind b.opens := opens_emit doc _ call
      rw [hopens] at hrest
      rw [Call.repaired_cons_of_fits hcall, Call.strays_cons_of_fits hcall, List.foldl_cons]
      exact hrest.fits hcall
    | some w =>
      have hrest := mends_repaired doc calls b
      rw [Call.repaired_cons_of_unbalanced hcall, Call.strays_cons_of_unbalanced hcall,
        List.foldl_cons, Call.openBehind_of_unbalanced hcall]
      exact hrest.stray hcall

/-- The events of warnings are all warnings. -/
theorem filter_level_events (ws : List LayoutWarning) :
    (ws.map (·.event)).filter (fun e => e.level = .warn) = ws.map (·.event) := by
  refine List.filter_eq_self.mpr fun e he => ?_
  obtain ⟨w, -, rfl⟩ := List.mem_map.mp he
  cases w <;> rfl

/-- The warnings of the log are those of the finished builder. -/
theorem filter_level_log (doc : Document) : ∀ (calls : List Call) (b : LayoutBuilder),
    (log doc b calls).filter (fun e => e.level = .warn) =
      (calls.foldl (emit doc) b.quiet).finish.warnings.map (·.event)
  | [], b => filter_level_events _
  | call :: calls, b => by
    have hevents : (call.events doc).filter (fun e => e.level = .warn) = [] := by
      rw [List.filter_eq_nil_iff]
      intro e he
      rw [(of_mem_events he).1]
      decide
    let b' := emit doc b.quiet call
    have hrest : (calls.foldl (emit doc) b').finish =
        (calls.foldl (emit doc) b'.quiet).finish.behind b'.warnings := by
      rw [← finish_behind, ← foldl_emit_behind, quiet_behind]
    rw [log, List.filter_append, List.filter_append, hevents, filter_level_events,
      filter_level_log doc calls, List.foldl_cons, hrest, behind, List.map_append]
    rfl

end LayoutBuilder

/-- **Calls that do not balance are repaired.** Take some calls without the ends that do not fit the
innermost container that is open when they are made, and with the ends of the containers that are
still open behind them, innermost first. They make the same layout. Their log is the same, in order,
without the events of two kinds: one for each end that is left out, and one for each end that is
added. -/
theorem layout_of_repaired (doc : Document) (calls : List Call) :
    let repaired := Call.repaired [] calls
    let log (calls : List Call) := LayoutBuilder.log doc {} calls
    (∀ before : List Call, (before.foldl (LayoutBuilder.emit doc) {}).stack.map OpenContainer.kind =
        before.foldl Call.openBehind []) ∧
      (∀ calls, (log calls).filter (fun e => e.level = .warn) =
        (LayoutBuilder.ofCalls doc calls).warnings.map (·.event)) ∧
      (LayoutBuilder.ofCalls doc repaired).layout = (LayoutBuilder.ofCalls doc calls).layout ∧
      log repaired = (log calls).filter (fun e => e.message ≠ "Ignoring unbalanced end call" ∧
        e.message ≠ "Closing unterminated container") ∧
      (log calls).filter (fun e => e.message = "Ignoring unbalanced end call") =
        (Call.strays [] calls).map (·.event) ∧
      (log calls).filter (fun e => e.message = "Closing unterminated container") =
        (calls.foldl Call.openBehind []).map fun kind =>
          (LayoutWarning.unterminated kind).event := by
  intro repaired log
  have hmends := LayoutBuilder.mends_repaired doc calls {}
  refine ⟨fun before => LayoutBuilder.opens_foldl_emit doc before {},
    fun calls => LayoutBuilder.filter_level_log doc calls {}, ?_, ?_, hmends.ignored,
    hmends.closed⟩
  · exact congrArg (fun b => b.layout) hmends.finish_eq
  · refine hmends.log_eq.trans (List.filter_congr fun e _ => ?_)
    simp [LogEvent.isPlain, LogEvent.ignoresEnd, LogEvent.closesContainer]

/-- An item outside of a list that a quote is left open in, with two ends that do not fit. -/
example :
    Call.repaired [] [.listEnd, .itemStart 0, .quoteStart, .rule, .itemEnd] =
      [.itemStart 0, .quoteStart, .rule, .quoteEnd, .itemEnd] := by
  decide

end MarkdownTree
