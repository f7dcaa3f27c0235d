import MaintenanceOutbox.Proofs.Pipeline.Moments

set_option autoImplicit false

/-! # Rounds of dispatch

The event stage takes all waiting events out of the unit of work, runs their transactional handlers
and looks again. `Registry.Cascade` says how such a dispatch goes: a list of rounds, each of them a
chain of handler calls about the events that were waiting when it began.

**What a dispatch does is what its result says.** If it succeeds, the rounds went on until nothing
was waiting, and the result lists the events of all rounds (`EventStage.run_dispatchRounds_ok`). If
it fails, a handler that was called after some of the rounds failed, or events were still waiting
after the last round that is allowed; and if it breaks off, such a handler did
(`EventStage.run_dispatchRounds_stopped`).

**Levels.** Handlers that only append to the queue (`Registry.AppendsOnly`) cannot take an event
away, so that every round is about exactly what the calls of the round before it raised
(`Registry.Cascade.levels`).
-/

namespace MaintenanceOutbox

variable {κ ω : Type} [EventFamily κ]

/-! ## Handler calls -/

/-- An event, and a handler to be called on it. -/
structure Duty (κ ω : Type) [EventFamily κ] where
  event : RaisedEvent κ
  handler : Handler κ (TransactionalM κ ω)

/-- The call of the handler. -/
def Duty.work (duty : Duty κ ω) : TransactionalM κ ω Unit :=
  duty.handler.invoke duty.event

/-- A call that was made. -/
abbrev HandlerCall (κ ω : Type) [EventFamily κ] :=
  Moment.Step κ ω (Duty κ ω)

namespace Registry

/-- The transactional handlers of an event, in the order in which they are called. -/
def handlersOf (r : Registry κ ω) (e : RaisedEvent κ) : List (Handler κ (TransactionalM κ ω)) :=
  match r.route? e.tag with
  | some route => route.transactional
  | none => []

/-- All that is to be done about some events: every one with each of its handlers. -/
def duties (r : Registry κ ω) (events : List (RaisedEvent κ)) : List (Duty κ ω) :=
  events.flatMap fun e => (r.handlersOf e).map (Duty.mk e)

theorem duties_append (r : Registry κ ω) (events later : List (RaisedEvent κ)) :
    r.duties (events ++ later) = r.duties events ++ r.duties later :=
  List.flatMap_append

theorem dispatchTransactional_eq (r : Registry κ ω) (e : RaisedEvent κ) :
    r.dispatchTransactional e = invokeAll (r.handlersOf e) e := by
  rw [dispatchTransactional, handlersOf]
  cases r.route? e.tag with
  | some route => rfl
  | none => rfl

end Registry

namespace EventStage

variable {tx : TxHandle} {m m' : Moment κ ω} {s : EventStage κ ω}

theorem handled_bind {α β : Type} (work : TransactionalM κ ω α) (next : α → TransactionalM κ ω β) :
    handled (work >>= next) = handled work >>= fun a => handled (next a) := by
  refine ExceptT.ext ?_
  rw [handled, ExceptT.run_adapt, ExceptT.run_bind, ExceptT.run_bind, handled, ExceptT.run_adapt,
    map_bind, bind_map_left]
  refine congrArg _ (funext fun result => ?_)
  cases result with
  | ok a => exact (ExceptT.run_adapt PipelineError.handler (next a)).symm
  | error e => exact map_pure _ _

/-- **To dispatch events is to do their duties**, one after the other. -/
theorem dispatchAll_eq (s : EventStage κ ω) (events : List (RaisedEvent κ)) :
    s.dispatchAll events = handled ((s.registry.duties events).forM Duty.work) := by
  induction events with
  | nil => rfl
  | cons e rest ih =>
      have first : (Registry.invokeAll (s.registry.handlersOf e) e : TransactionalM κ ω Nat) =
          ((s.registry.handlersOf e).map (Duty.mk e)).forM Duty.work >>= fun _ =>
            pure (s.registry.handlersOf e).length := by
        rw [List.forM_eq_forM, List.forM_map]
        rfl
      have both : ((s.registry.duties (e :: rest)).forM Duty.work : TransactionalM κ ω Unit) =
          ((s.registry.handlersOf e).map (Duty.mk e)).forM Duty.work >>= fun _ =>
            (s.registry.duties rest).forM Duty.work := by
        rw [Registry.duties, List.flatMap_cons]
        exact List.forM_append
      calc s.dispatchAll (e :: rest)
          = (handled (s.registry.dispatchTransactional e) >>= fun _ => pure ()) >>= fun _ =>
              s.dispatchAll rest := rfl
        _ = handled (((s.registry.handlersOf e).map (Duty.mk e)).forM Duty.work) >>= fun _ =>
              handled ((s.registry.duties rest).forM Duty.work) := by
            rw [Registry.dispatchTransactional_eq, first, handled_bind, ih]
            simp only [bind_assoc, pure_bind]
            rfl
        _ = handled ((s.registry.duties (e :: rest)).forM Duty.work) := by
            rw [both, handled_bind]

end EventStage

/-! ## Rounds -/

/-- A round of dispatch: the events that it is about, and the calls of their handlers. -/
structure Round (κ ω : Type) [EventFamily κ] where
  events : List (RaisedEvent κ)
  calls : List (HandlerCall κ ω)

namespace Round

/-- The events of some rounds, in the order in which they are dispatched. -/
def dispatched (rounds : List (Round κ ω)) : List (RaisedEvent κ) :=
  rounds.flatMap (·.events)

/-- The calls of some rounds, in the order in which they are made. -/
def made (rounds : List (Round κ ω)) : List (HandlerCall κ ω) :=
  rounds.flatMap (·.calls)

/-- The events that the calls of a round raised. -/
def raised (round : Round κ ω) : List (RaisedEvent κ) :=
  round.calls.flatMap (·.raised)

/-- **Level by level**: the first round is about the events that were waiting, every other one about
the events that the round before it raised, and what the last one raised is left. -/
def Levels : List (RaisedEvent κ) → List (Round κ ω) → List (RaisedEvent κ) → Prop
  | waiting, [], left => waiting = left
  | waiting, round :: rounds, left => round.events = waiting ∧ Levels round.raised rounds left

end Round

/-- **A cascade of rounds** leads from one moment to another. Every round takes all events that are
waiting and calls each of their handlers once, in order; every call succeeds. -/
inductive Registry.Cascade (r : Registry κ ω) (tx : TxHandle) :
    Moment κ ω → List (Round κ ω) → Moment κ ω → Prop where
  | rest (m : Moment κ ω) : Cascade r tx m [] m
  | round {m m₁ m' : Moment κ ω} {calls : List (HandlerCall κ ω)} {rounds : List (Round κ ω)}
      (waiting : m.uow.raised ≠ [])
      (calling : Moment.Chain tx Duty.work ⟨.empty, m.host⟩ calls m₁)
      (all : calls.map (·.what) = r.duties m.uow.raised)
      (later : Cascade r tx m₁ rounds m') : Cascade r tx m (⟨m.uow.raised, calls⟩ :: rounds) m'

namespace Registry.Cascade

variable {r : Registry κ ω} {tx : TxHandle} {m m' : Moment κ ω} {rounds : List (Round κ ω)}

/-- **Every event meets each of its handlers exactly once**, in the order of dispatch. -/
theorem made_eq (cascade : r.Cascade tx m rounds m') :
    (Round.made rounds).map (·.what) = r.duties (Round.dispatched rounds) := by
  induction cascade with
  | rest m => rfl
  | @round m _ _ calls rounds waiting calling all later ih =>
      calc (Round.made (⟨m.uow.raised, calls⟩ :: rounds)).map (·.what)
          = calls.map (·.what) ++ (Round.made rounds).map (·.what) := List.map_append
        _ = r.duties m.uow.raised ++ r.duties (Round.dispatched rounds) := by rw [all, ih]
        _ = r.duties (m.uow.raised ++ Round.dispatched rounds) := (r.duties_append _ _).symm

end Registry.Cascade

/-! ## The loop -/

namespace EventStage

variable {s : EventStage κ ω} {tx : TxHandle} {m m' : Moment κ ω} {events : List (RaisedEvent κ)}

theorem run_collect (tx : TxHandle) (m : Moment κ ω) :
    m.run tx collect = (some (.ok m.uow.raised), ⟨.empty, m.host⟩) := rfl

/-- Nothing is waiting any more. -/
theorem run_dispatchRounds_done (left : Nat) (dispatched : List (RaisedEvent κ))
    (none : m.uow.raised = []) :
    m.run tx (s.dispatchRounds left dispatched) = (some (.ok dispatched), m) := by
  obtain ⟨⟨raised⟩, host⟩ := m
  obtain rfl : raised = [] := none
  rw [dispatchRounds, Moment.run_bind, run_collect]
  rfl

theorem run_dispatchRounds_zero (dispatched : List (RaisedEvent κ))
    (waiting : m.uow.raised ≠ []) :
    m.run tx (s.dispatchRounds 0 dispatched) =
      (some (.error (.roundsExceeded s.maxRounds)), ⟨.empty, m.host⟩) := by
  rw [dispatchRounds, Moment.run_bind, run_collect]
  dsimp only
  rw [if_neg (by simpa using waiting), Moment.run_throw]

theorem run_dispatchRounds_succ (left : Nat) (dispatched : List (RaisedEvent κ))
    (waiting : m.uow.raised ≠ []) :
    m.run tx (s.dispatchRounds (left + 1) dispatched) =
      Moment.run tx (s.dispatchAll m.uow.raised >>= fun _ =>
        s.dispatchRounds left (dispatched ++ m.uow.raised)) ⟨.empty, m.host⟩ := by
  rw [dispatchRounds, Moment.run_bind, run_collect]
  dsimp only
  rw [if_neg (by simpa using waiting)]

/-- **A dispatch that succeeds** went on until nothing was waiting. -/
theorem run_dispatchRounds_ok {left : Nat} {m : Moment κ ω} {dispatched : List (RaisedEvent κ)}
    (h : m.run tx (s.dispatchRounds left dispatched) = (some (.ok events), m')) :
    ∃ rounds, s.registry.Cascade tx m rounds m' ∧ m'.uow = .empty ∧ rounds.length ≤ left ∧
      events = dispatched ++ Round.dispatched rounds := by
  by_cases waiting : m.uow.raised = []
  · rw [run_dispatchRounds_done left dispatched waiting] at h
    cases h
    exact ⟨[], .rest _, congrArg UnitOfWork.mk waiting, Nat.zero_le left,
      (List.append_nil _).symm⟩
  · cases left with
    | zero =>
        rw [run_dispatchRounds_zero dispatched waiting] at h
        cases h
    | succ left =>
        rw [run_dispatchRounds_succ left dispatched waiting, dispatchAll_eq] at h
        obtain ⟨⟨⟩, m₁, called, later⟩ := Moment.run_bind_ok h
        obtain ⟨calls, calling, all⟩ := Moment.run_forM_ok (Moment.run_adapt_ok.mp called)
        obtain ⟨rounds, cascade, empty, bound, listed⟩ := run_dispatchRounds_ok later
        refine ⟨⟨m.uow.raised, calls⟩ :: rounds, .round waiting calling all cascade, empty,
          Nat.succ_le_succ bound, ?_⟩
        rw [listed, List.append_assoc]
        rfl

/-- **Why a dispatch fails** that has `left` rounds to go, or, without an error, why it breaks
off. -/
inductive DispatchStops (s : EventStage κ ω) (tx : TxHandle) (left : Nat) (m : Moment κ ω) :
    Option (PipelineError Empty) → Prop where
  /-- A handler fails or breaks off, after some rounds and some calls of the next round. -/
  | handler {rounds : List (Round κ ω)} {calls : List (HandlerCall κ ω)} {m₁ m₂ m' : Moment κ ω}
      {duty : Duty κ ω} {rest : List (Duty κ ω)} {e? : Option HandlerError}
      (cascade : s.registry.Cascade tx m rounds m₁) (allowed : rounds.length < left)
      (calling : Moment.Chain tx Duty.work ⟨.empty, m₁.host⟩ calls m₂)
      (next : s.registry.duties m₁.uow.raised = calls.map (·.what) ++ duty :: rest)
      (stopped : m₂.run tx duty.work = (e?.map .error, m')) :
      DispatchStops s tx left m (e?.map .handler)
  /-- Events are waiting after the last round that is allowed. -/
  | rounds {rounds : List (Round κ ω)} {m₁ : Moment κ ω}
      (cascade : s.registry.Cascade tx m rounds m₁) (all : rounds.length = left)
      (waiting : m₁.uow.raised ≠ []) :
      DispatchStops s tx left m (some (.roundsExceeded s.maxRounds))

/-- What stops a dispatch after a round stops it from its beginning. -/
theorem DispatchStops.after_round {left : Nat} {m₁ : Moment κ ω} {calls : List (HandlerCall κ ω)}
    {e? : Option (PipelineError Empty)} (waiting : m.uow.raised ≠ [])
    (calling : Moment.Chain tx Duty.work ⟨.empty, m.host⟩ calls m₁)
    (all : calls.map (·.what) = s.registry.duties m.uow.raised)
    (stops : s.DispatchStops tx left m₁ e?) : s.DispatchStops tx (left + 1) m e? := by
  cases stops with
  | handler cascade allowed calling' next stopped =>
      exact .handler (.round waiting calling all cascade) (Nat.succ_lt_succ allowed) calling' next
        stopped
  | rounds cascade every waiting' =>
      exact .rounds (.round waiting calling all cascade) (congrArg Nat.succ every) waiting'

theorem run_dispatchRounds_stopped {left : Nat} {m : Moment κ ω}
    {dispatched : List (RaisedEvent κ)} {e? : Option (PipelineError Empty)}
    (h : m.run tx (s.dispatchRounds left dispatched) = (e?.map .error, m')) :
    s.DispatchStops tx left m e? := by
  by_cases waiting : m.uow.raised = []
  · rw [run_dispatchRounds_done left dispatched waiting] at h
    cases e? <;> cases h
  · cases left with
    | zero =>
        rw [run_dispatchRounds_zero dispatched waiting] at h
        cases e? <;> cases h
        exact .rounds (.rest m) rfl waiting
    | succ left =>
        rw [run_dispatchRounds_succ left dispatched waiting, dispatchAll_eq] at h
        rcases Moment.run_bind_stopped h with stopped | ⟨⟨⟩, m₁, called, later⟩
        · obtain ⟨e'?, calls, rfl⟩ := Moment.run_adapt_stopped.mp stopped
          obtain ⟨calls, duty, rest, m₁, calling, next, stops⟩ := Moment.run_forM_stopped calls
          exact .handler (.rest m) (Nat.succ_pos left) calling next stops
        · obtain ⟨calls, calling, all⟩ := Moment.run_forM_ok (Moment.run_adapt_ok.mp called)
          exact (run_dispatchRounds_stopped later).after_round waiting calling all

end EventStage

/-! ## Levels -/

/-- **The transactional handlers only append to the queue of events**, if they come to a result. -/
def Registry.AppendsOnly (r : Registry κ ω) : Prop :=
  ∀ route ∈ r.routes, ∀ h ∈ route.transactional, ∀ (body : EventFamily.Body h.kind)
    (tx : TxHandle) (m m' : Moment κ ω) (result : Except HandlerError Unit),
    m.run tx (h.handle body) = (some result, m') → m.uow.raised <+: m'.uow.raised

/-- A chain of steps that append, appends what the steps raised. -/
theorem Moment.chain_raised {ε A : Type} {tx : TxHandle} {work : A → BusinessM κ ω ε Unit}
    {steps : List (Step κ ω A)} {m m' : Moment κ ω} (chain : Chain tx work m steps m')
    (appends : ∀ step ∈ steps, ∀ (m m' : Moment κ ω) (result : Except ε Unit),
      m.run tx (work step.what) = (some result, m') → m.uow.raised <+: m'.uow.raised) :
    m'.uow.raised = m.uow.raised ++ steps.flatMap (·.raised) := by
  induction steps generalizing m with
  | nil =>
      obtain rfl : m = m' := chain
      exact (List.append_nil _).symm
  | cons step rest ih =>
      obtain ⟨rfl, first, later⟩ := chain
      have more := appends step List.mem_cons_self step.before step.after _ first
      have after : step.after.uow.raised = step.before.uow.raised ++ step.raised :=
        (List.prefix_iff_eq_append.mp more).symm
      calc m'.uow.raised
          = step.after.uow.raised ++ rest.flatMap (·.raised) :=
            ih later fun step' later => appends step' (List.mem_cons_of_mem step later)
        _ = step.before.uow.raised ++ (step :: rest).flatMap (·.raised) := by
            rw [after, List.append_assoc]
            rfl

namespace Registry

variable {r : Registry κ ω} {tx : TxHandle}

theorem AppendsOnly.work (appends : r.AppendsOnly) {events : List (RaisedEvent κ)}
    {duty : Duty κ ω} (listed : duty ∈ r.duties events) {m m' : Moment κ ω}
    {result : Except HandlerError Unit} (ran : m.run tx duty.work = (some result, m')) :
    m.uow.raised <+: m'.uow.raised := by
  obtain ⟨e, -, ofEvent⟩ := List.mem_flatMap.mp listed
  obtain ⟨h, called, rfl⟩ := List.mem_map.mp ofEvent
  rw [handlersOf] at called
  split at called
  · next route found =>
      rw [Duty.work, Handler.invoke] at ran
      dsimp only at ran
      split at ran
      · exact appends route (List.mem_of_find?_eq_some found) h called _ tx m m' result ran
      · rw [Moment.run_throw] at ran
        cases ran
        exact List.prefix_refl _
  · cases called

/-- **Every level of events is raised by the level before it.** -/
theorem Cascade.levels (appends : r.AppendsOnly) {m m' : Moment κ ω} {rounds : List (Round κ ω)}
    (cascade : r.Cascade tx m rounds m') : Round.Levels m.uow.raised rounds m'.uow.raised := by
  induction cascade with
  | rest m => rfl
  | @round m m₁ _ calls _ waiting calling all later ih =>
      have raised : m₁.uow.raised = calls.flatMap (·.raised) :=
        Moment.chain_raised calling fun step made m m' result ran => by
          have listed := List.mem_map_of_mem (f := (·.what)) made
          rw [all] at listed
          exact appends.work listed ran
      rw [raised] at ih
      exact ⟨rfl, ih⟩

end Registry

end MaintenanceOutbox
