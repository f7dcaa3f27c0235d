import MaintenanceOutbox.Proofs.Pipeline.Publishing

set_option autoImplicit false

/-! # Where a dispatch is cut

The rounds of dispatch are the levels of a cascade: level 0 are the events that are waiting, and
every other level is what is waiting when the level before it was dispatched. The stage dispatches
at most as many levels as its cap. Two things may cut it short. If a level is left after that, it
ends with `PipelineError.roundsExceeded`, and nothing of that level was dispatched; if a handler
fails before, it ends with this failure, and no handler was called after it. Whatever comes first
decides, and one of the three always comes, also if handlers raise events for ever
(`EventStage.passes_or_breaks`). A handler may also break off, and then so does the stage.

In all these cases the host is as the handlers left it, so that the stage itself recorded nothing.
What is recorded when all levels are dispatched is cut at the first event that cannot be written,
and there is a row for each event before it (`EventStage.cuts_exactly`).
-/

namespace MaintenanceOutbox

variable {κ ω : Type} [EventFamily κ]

/-! ## Chains determine runs -/

/-- **Work goes on where a chain ends**, after the steps of the chain. -/
theorem Moment.run_chain {ε A : Type} {tx : TxHandle} {work : A → BusinessM κ ω ε Unit}
    {steps : List (Step κ ω A)} {m m' : Moment κ ω} (chain : Chain tx work m steps m')
    (rest : List A) :
    m.run tx ((steps.map (·.what) ++ rest).forM work) = m'.run tx (rest.forM work) := by
  induction steps generalizing m with
  | nil =>
      obtain rfl : m = m' := chain
      rfl
  | cons step steps ih =>
      obtain ⟨rfl, first, later⟩ := chain
      show step.before.run tx (work step.what >>= fun _ =>
        (steps.map (·.what) ++ rest).forM work) = _
      rw [run_bind, first]
      exact ih later

namespace Registry

/-- **No handler fails in the first `c` levels** of the cascade that begins at `m`. The rounds are
these levels, and what is waiting at `m'` is level `c`. There may be fewer levels, and then nothing
is waiting. -/
structure Passes (r : Registry κ ω) (tx : TxHandle) (c : Nat) (m : Moment κ ω)
    (rounds : List (Round κ ω)) (m' : Moment κ ω) : Prop where
  cascade : r.Cascade tx m rounds m'
  bound : rounds.length ≤ c
  complete : rounds.length < c → m'.uow.raised = []

/-- **A handler fails in the first `c` levels**, with an error, or it breaks off, without one, and
this leads to `m'`. The calls before it succeed: those of whole levels, and then those of its own
level that come before it. -/
inductive Breaks (r : Registry κ ω) (tx : TxHandle) (c : Nat) (m : Moment κ ω) :
    List (HandlerCall κ ω) → Duty κ ω → Option HandlerError → Moment κ ω → Prop where
  | intro {rounds : List (Round κ ω)} {calls : List (HandlerCall κ ω)} {m₁ m₂ m' : Moment κ ω}
      {duty : Duty κ ω} {rest : List (Duty κ ω)} {e? : Option HandlerError}
      (cascade : r.Cascade tx m rounds m₁) (early : rounds.length < c)
      (calling : Moment.Chain tx Duty.work ⟨.empty, m₁.host⟩ calls m₂)
      (next : r.duties m₁.uow.raised = calls.map (·.what) ++ duty :: rest)
      (stopped : m₂.run tx duty.work = (e?.map .error, m')) :
      Breaks r tx c m (Round.made rounds ++ calls) duty e? m'

/-- The calls before the last one, and the last one itself, are the first duties of the levels so
far, in order. -/
theorem Breaks.order {r : Registry κ ω} {tx : TxHandle} {c : Nat} {m m' : Moment κ ω}
    {calls : List (HandlerCall κ ω)} {duty : Duty κ ω} {e? : Option HandlerError}
    (breaks : r.Breaks tx c m calls duty e? m') :
    ∃ rounds m₁ rest, r.Cascade tx m rounds m₁ ∧ rounds.length < c ∧
      r.duties (Round.dispatched rounds ++ m₁.uow.raised) =
        calls.map (·.what) ++ duty :: rest := by
  cases breaks with
  | @intro rounds calls m₁ m₂ m' duty rest e? cascade early calling next stopped =>
      refine ⟨rounds, m₁, rest, cascade, early, ?_⟩
      rw [duties_append, ← cascade.made_eq, next, List.map_append, List.append_assoc]

end Registry

namespace EventStage

variable {s : EventStage κ ω} {tx : TxHandle} {m m' : Moment κ ω} {rounds : List (Round κ ω)}

/-- The rounds of a cascade are dispatched, and the dispatch goes on after them. -/
theorem run_dispatchRounds_cascade (cascade : s.registry.Cascade tx m rounds m') (left : Nat)
    (dispatched : List (RaisedEvent κ)) :
    m.run tx (s.dispatchRounds (rounds.length + left) dispatched) =
      m'.run tx (s.dispatchRounds left (dispatched ++ Round.dispatched rounds)) := by
  induction cascade generalizing dispatched with
  | rest m =>
      rw [List.length_nil, Nat.zero_add]
      exact congrArg (fun events => m.run tx (s.dispatchRounds left events))
        (List.append_nil dispatched).symm
  | @round m m₁ m' calls rounds waiting calling all later ih =>
      have called : Moment.run tx (s.dispatchAll m.uow.raised) ⟨.empty, m.host⟩ =
          (some (.ok ()), m₁) := by
        have chain := Moment.run_chain calling []
        rw [List.append_nil, all] at chain
        rw [dispatchAll_eq]
        exact Moment.run_adapt_ok.mpr chain
      rw [List.length_cons, Nat.add_right_comm, run_dispatchRounds_succ _ _ waiting,
        Moment.run_bind, called]
      dsimp only
      rw [ih, List.append_assoc]
      rfl

section Dispatch

variable {c : Nat}

/-- If nothing is left after the first levels, they are all that is dispatched. -/
theorem run_dispatchRounds_settled (passes : s.registry.Passes tx c m rounds m')
    (settled : m'.uow.raised = []) :
    m.run tx (s.dispatchRounds c []) = (some (.ok (Round.dispatched rounds)), m') := by
  obtain ⟨left, rfl⟩ := Nat.exists_eq_add_of_le passes.bound
  rw [run_dispatchRounds_cascade passes.cascade, run_dispatchRounds_done left _ settled]
  rfl

/-- If a level is left, the dispatch ends without it. -/
theorem run_dispatchRounds_exceeded (passes : s.registry.Passes tx c m rounds m')
    (waiting : m'.uow.raised ≠ []) :
    m.run tx (s.dispatchRounds c []) =
      (some (.error (.roundsExceeded s.maxRounds)), ⟨.empty, m'.host⟩) := by
  have all : rounds.length = c :=
    Nat.le_antisymm passes.bound (Nat.not_lt.mp fun fewer => waiting (passes.complete fewer))
  have goesOn := run_dispatchRounds_cascade passes.cascade 0 []
  rw [Nat.add_zero, all] at goesOn
  rw [goesOn, run_dispatchRounds_zero _ waiting]

/-- If a handler fails or breaks off, the dispatch ends there. -/
theorem run_dispatchRounds_breaks {calls : List (HandlerCall κ ω)} {duty : Duty κ ω}
    {e? : Option HandlerError} (breaks : s.registry.Breaks tx c m calls duty e? m') :
    m.run tx (s.dispatchRounds c []) = ((e?.map .handler).map .error, m') := by
  cases breaks with
  | @intro rounds calls m₁ m₂ m' duty rest e? cascade early calling next stopped =>
      obtain ⟨left, rfl⟩ := Nat.exists_eq_add_of_lt early
      have waiting : m₁.uow.raised ≠ [] := by
        intro none
        rw [none] at next
        cases List.append_eq_nil_iff.mp next.symm |>.2
      have ends : Moment.run tx (s.dispatchAll m₁.uow.raised) ⟨.empty, m₁.host⟩ =
          ((e?.map .handler).map .error, m') := by
        have chain := Moment.run_chain calling (duty :: rest)
        rw [← next] at chain
        have last : m₂.run tx ((duty :: rest).forM Duty.work) = (e?.map .error, m') :=
          Moment.run_bind_of_stopped stopped fun _ => rest.forM Duty.work
        rw [dispatchAll_eq]
        exact Moment.run_adapt_stopped.mpr ⟨e?, chain.trans last, rfl⟩
      rw [Nat.add_assoc, run_dispatchRounds_cascade cascade, run_dispatchRounds_succ _ _ waiting]
      exact Moment.run_bind_of_stopped ends _

/-- What stops a dispatch is a level too many, or a handler. -/
theorem DispatchStops.passes_or_breaks {e? : Option (PipelineError Empty)}
    (stops : s.DispatchStops tx c m e?) :
    (e? = some (.roundsExceeded s.maxRounds) ∧ ∃ rounds m', s.registry.Passes tx c m rounds m') ∨
      ∃ calls duty e'? m', e? = e'?.map .handler ∧ s.registry.Breaks tx c m calls duty e'? m' := by
  cases stops with
  | handler cascade allowed calling next stopped =>
      exact Or.inr ⟨_, _, _, _, rfl, .intro cascade allowed calling next stopped⟩
  | rounds cascade all waiting =>
      exact Or.inl ⟨rfl, _, _, cascade, Nat.le_of_eq all, fun fewer =>
        absurd all (Nat.ne_of_lt fewer)⟩

/-- **One of them always comes first**: the first levels pass, or a handler fails or breaks off in
them. -/
theorem passes_or_breaks (s : EventStage κ ω) (tx : TxHandle) (c : Nat) (m : Moment κ ω) :
    (∃ rounds m', s.registry.Passes tx c m rounds m') ∨
      ∃ calls duty e? m', s.registry.Breaks tx c m calls duty e? m' := by
  have of_stops : ∀ {e? : Option (PipelineError Empty)}, s.DispatchStops tx c m e? →
      (∃ rounds m', s.registry.Passes tx c m rounds m') ∨
        ∃ calls duty e? m', s.registry.Breaks tx c m calls duty e? m' := by
    intro e? stops
    refine stops.passes_or_breaks.imp And.right ?_
    rintro ⟨calls, duty, e'?, m', -, breaks⟩
    exact ⟨calls, duty, e'?, m', breaks⟩
  rcases ran : m.run tx (s.dispatchRounds c []) with ⟨_ | e | events, m'⟩
  · have stops : s.DispatchStops tx c m none := run_dispatchRounds_stopped ran
    exact of_stops stops
  · have stops : s.DispatchStops tx c m (some e) := run_dispatchRounds_stopped ran
    exact of_stops stops
  · obtain ⟨rounds, cascade, empty, bound, -⟩ := run_dispatchRounds_ok ran
    exact Or.inl ⟨rounds, m', cascade, bound, fun _ => congrArg UnitOfWork.raised empty⟩

end Dispatch

/-! ## The stage -/

variable {events before rest : List (RaisedEvent κ)} {e : RaisedEvent κ} {reason : String}

/-- Record the events that were dispatched, and count them. -/
def recordAll (s : EventStage κ ω) (events : List (RaisedEvent κ)) : StageM κ ω Nat := do
  events.forM s.record
  pure events.length

/-- A run of the stage goes on with the recording where the dispatch settles. -/
theorem run_settled (passes : s.registry.Passes tx s.maxRounds m rounds m')
    (settled : m'.uow.raised = []) :
    m.run tx s.run = m'.run tx (s.recordAll (Round.dispatched rounds)) := by
  rw [run, Moment.run_bind, run_dispatchRounds_settled passes settled]
  rfl

/-- A failure of the dispatch is a failure of the run, and the same if it breaks off. -/
theorem run_stopped {failure? : Option (PipelineError Empty)}
    (stops : m.run tx (s.dispatchRounds s.maxRounds []) = (failure?.map .error, m')) :
    m.run tx s.run = (failure?.map .error, m') :=
  Moment.run_bind_of_stopped stops _

/-- If a level is left, the run ends without it. -/
theorem run_exceeded (passes : s.registry.Passes tx s.maxRounds m rounds m')
    (waiting : m'.uow.raised ≠ []) :
    m.run tx s.run = (some (.error (.roundsExceeded s.maxRounds)), ⟨.empty, m'.host⟩) := by
  have stops : m.run tx (s.dispatchRounds s.maxRounds []) =
      ((some (PipelineError.roundsExceeded s.maxRounds)).map .error, ⟨.empty, m'.host⟩) :=
    run_dispatchRounds_exceeded passes waiting
  exact run_stopped stops

/-- Recording ends at the first event that cannot be written. -/
theorem run_recordAll_unwritten {steps : List (Moment.Step κ ω (RaisedEvent κ))}
    (recorded : Moment.Chain tx s.record m steps m') (unwritten : e.payload = .error reason) :
    m.run tx (s.recordAll (steps.map (·.what) ++ e :: rest)) =
      (some (.error (.serialization e.tag reason)), m') := by
  have last : m'.run tx ((e :: rest).forM s.record) =
      (some (.error (.serialization e.tag reason)), m') := by
    show m'.run tx (s.record e >>= fun _ => rest.forM s.record) = _
    rw [Moment.run_bind, run_record, unwritten]
  rw [recordAll, Moment.run_bind, Moment.run_chain recorded, last]

/-- **Why recording fails**: at an event that cannot be written, or because of the store. It never
breaks off. -/
theorem run_recordAll_stopped {failure? : Option (PipelineError Empty)}
    (ran : m.run tx (s.recordAll events) = (failure?.map .error, m')) :
    (∃ steps e rest reason, Moment.Chain tx s.record m steps m' ∧
      events = steps.map (·.what) ++ e :: rest ∧ e.payload = .error reason ∧
        failure? = some (.serialization e.tag reason)) ∨
      ∃ error, failure? = some (.store error) := by
  rcases Moment.run_bind_stopped ran with stopped | ⟨⟨⟩, m₁, -, last⟩
  · obtain ⟨steps, e, rest, m₁, recording, next, failed⟩ := Moment.run_forM_stopped stopped
    rcases run_record_stopped failed with ⟨reason, unwritten, rfl⟩ | ⟨_, error, _, rfl, _⟩
    · rw [run_record, unwritten] at failed
      cases failed
      exact Or.inl ⟨steps, e, rest, reason, recording, next, unwritten, rfl⟩
    · exact Or.inr ⟨error, rfl⟩
  · cases failure? <;> cases last

/-- **The cap is exceeded exactly if a level is left.** -/
theorem run_eq_roundsExceeded_iff (passes : s.registry.Passes tx s.maxRounds m rounds m') :
    (m.run tx s.run).1 = some (.error (.roundsExceeded s.maxRounds)) ↔ m'.uow.raised ≠ [] := by
  refine ⟨fun ran settled => ?_, fun waiting => congrArg Prod.fst (run_exceeded passes waiting)⟩
  rw [run_settled passes settled] at ran
  have stops : m'.run tx (s.recordAll (Round.dispatched rounds)) =
    ((some (PipelineError.roundsExceeded s.maxRounds)).map .error, _) := Prod.ext ran rfl
  rcases run_recordAll_stopped stops with ⟨_, _, _, _, -, -, -, other⟩ | ⟨_, other⟩
  · cases other
  · cases other

/-- **A run fails with a handler exactly if one fails within the cap**, and breaks off exactly if
one breaks off. -/
theorem run_eq_handler_iff {e? : Option HandlerError} :
    m.run tx s.run = ((e?.map .handler).map .error, m') ↔
      ∃ calls duty, s.registry.Breaks tx s.maxRounds m calls duty e? m' := by
  refine ⟨fun ran => ?_, fun ⟨calls, duty, breaks⟩ =>
    run_stopped (run_dispatchRounds_breaks breaks)⟩
  have stops := run_stops ran
  generalize same : e?.map PipelineError.handler = failure? at stops
  cases stops with
  | dispatch stops =>
      rcases stops.passes_or_breaks with ⟨rfl, -⟩ | ⟨calls, duty, e'?, m'', rfl, breaks⟩
      · cases e? <;> cases same
      · -- what is found is what the run ended with
        have ends := ran.symm.trans (run_stopped (run_dispatchRounds_breaks breaks))
        cases congrArg Prod.snd ends
        have equal : e? = e'? := by cases e? <;> cases e'? <;> cases same <;> rfl
        exact ⟨calls, duty, equal ▸ breaks⟩
  | serialization | store => cases e? <;> cases same

/-- A run that fails with an event that cannot be written recorded those before it. -/
theorem exists_recorded_of_serialization {tag : String}
    (ran : m.run tx s.run = (some (.error (.serialization tag reason)), m')) :
    ∃ rounds settled steps e rest, s.registry.Passes tx s.maxRounds m rounds settled ∧
      settled.uow.raised = [] ∧ Moment.Chain tx s.record settled steps m' ∧
      Round.dispatched rounds = steps.map (·.what) ++ e :: rest ∧ e.tag = tag ∧
        e.payload = .error reason := by
  rcases s.passes_or_breaks tx s.maxRounds m with
    ⟨rounds, settled, passes⟩ | ⟨_, _, e?, _, breaks⟩
  · by_cases none : settled.uow.raised = []
    · rw [run_settled passes none] at ran
      have stops : settled.run tx (s.recordAll (Round.dispatched rounds)) =
        ((some (PipelineError.serialization tag reason)).map .error, m') := ran
      rcases run_recordAll_stopped stops with
        ⟨steps, e, rest, reason', chain, dispatched, unwritten, same⟩ | ⟨_, other⟩
      · cases same
        exact ⟨rounds, settled, steps, e, rest, passes, none, chain, dispatched, rfl, unwritten⟩
      · cases other
    · cases ran.symm.trans (run_exceeded passes none)
  · have ends := ran.symm.trans (run_stopped (run_dispatchRounds_breaks breaks))
    cases e? <;> cases ends

/-- **The stage adds a row for each of some events** to the transaction `t` of the system `s₀`, from
`m` to `m'`, and does nothing else. -/
def Adds (s : EventStage κ ω) (s₀ : System) (t : OpenTx) (events : List (RaisedEvent κ))
    (m m' : Moment κ ω) : Prop :=
  ∃ tables work messages, m.host.system = s₀.put t tables work ∧
    m'.host.system = s₀.put t tables (work.adding messages) ∧
    List.Forall₂ s.RecordedAs events messages ∧ m'.uow = m.uow

/-- **The names that are drawn next are new** to the transaction `tx` and the tables of the store
`i`, and do not repeat. -/
def DrawsNew (i : StoreId) (tx : TxHandle) (n : Nat) (m : Moment κ ω) : Prop :=
  (m.host.upcoming n).Nodup ∧ ∀ t, m.host.system.open? tx = some t →
    ∀ id ∈ m.host.upcoming n, t.tx.nameTaken (m.host.system.store i) id = false

/-- **Where a run of the stage is cut**, whose cap is `c`. -/
structure CutsExactly (s : EventStage κ ω) (t : OpenTx) (c : Nat) (m : Moment κ ω) : Prop where
  /-- within the cap, all levels pass, or a handler fails or breaks off -/
  ends : (∃ rounds m', s.registry.Passes t.handle c m rounds m') ∨
    ∃ calls duty e? m', s.registry.Breaks t.handle c m calls duty e? m'
  /-- the levels that pass are dispatched: each of their events to each of its handlers -/
  dispatched : ∀ rounds m', s.registry.Passes t.handle c m rounds m' →
    (Round.made rounds).map (·.what) = s.registry.duties (Round.dispatched rounds) ∧
      (s.registry.AppendsOnly → Round.Levels m.uow.raised rounds m'.uow.raised)
  /-- the cap is exceeded exactly if level `c` is not empty -/
  exceeded_iff : ∀ rounds m', s.registry.Passes t.handle c m rounds m' →
    ((m.run t.handle s.run).1 = some (.error (.roundsExceeded c)) ↔ m'.uow.raised ≠ [])
  /-- and then the host is as the calls of the levels before it left it -/
  exceeded : ∀ rounds m', s.registry.Passes t.handle c m rounds m' → m'.uow.raised ≠ [] →
    m.run t.handle s.run = (some (.error (.roundsExceeded c)), ⟨.empty, m'.host⟩)
  /-- the run fails with a handler exactly if one fails within the cap, and nothing is done after -/
  handler_iff : ∀ e m', m.run t.handle s.run = (some (.error (.handler e)), m') ↔
    ∃ calls duty, s.registry.Breaks t.handle c m calls duty (some e) m'
  /-- it breaks off exactly if a handler does so, and then the transaction is gone -/
  broken_iff : ∀ m', m.run t.handle s.run = (none, m') ↔
    ∃ calls duty, s.registry.Breaks t.handle c m calls duty none m'
  dropped : ∀ m', m.run t.handle s.run = (none, m') → m'.host.system.open? t.handle = none
  /-- before it, the handlers were called that come before it in the order of dispatch -/
  order : ∀ calls duty e? m', s.registry.Breaks t.handle c m calls duty e? m' →
    ∃ rounds m₁ rest, s.registry.Cascade t.handle m rounds m₁ ∧ rounds.length < c ∧
      s.registry.duties (Round.dispatched rounds ++ m₁.uow.raised) =
        calls.map (·.what) ++ duty :: rest
  /-- where all levels are dispatched, they are recorded -/
  settled : ∀ rounds m', s.registry.Passes t.handle c m rounds m' → m'.uow.raised = [] →
    m.run t.handle s.run = m'.run t.handle (s.recordAll (Round.dispatched rounds))
  /-- the first event that cannot be written cuts the recording after those before it -/
  unwritten : ∀ rounds m' steps m'' e rest reason, s.registry.Passes t.handle c m rounds m' →
    m'.uow.raised = [] → Round.dispatched rounds = steps.map (·.what) ++ e :: rest →
    Moment.Chain t.handle s.record m' steps m'' → e.payload = .error reason →
      m.run t.handle s.run = (some (.error (.serialization e.tag reason)), m'') ∧
        s.Adds m.host.system t (steps.map (·.what)) m' m''
  /-- those are recorded, if they can be written and their messages get new names -/
  recorded : ∀ rounds m' before, s.registry.Passes t.handle c m rounds m' →
    (∀ e ∈ before, ∃ payload, e.payload = .ok payload) →
    DrawsNew s.store t.handle before.length m' →
      ∃ steps m'', Moment.Chain t.handle s.record m' steps m'' ∧ steps.map (·.what) = before
  /-- and only such an event does -/
  of_serialization : ∀ tag reason m'',
    m.run t.handle s.run = (some (.error (.serialization tag reason)), m'') →
      ∃ rounds m' before e rest, s.registry.Passes t.handle c m rounds m' ∧ m'.uow.raised = [] ∧
        Round.dispatched rounds = before ++ e :: rest ∧ e.tag = tag ∧ e.payload = .error reason ∧
        s.Adds m.host.system t before m' m''

section AtWork

variable {t : OpenTx} (distinct : m.host.system.Distinct)
  (opened : m.host.system.open? t.handle = some t)
  (hi : t.home.index < m.host.system.stores.length)
include distinct opened hi

/-- After a cascade, the system is as before but for the transaction and the tables of its home. -/
theorem exists_put (cascade : s.registry.Cascade t.handle m rounds m') :
    ∃ tables work, m'.host.system = m.host.system.put t tables work := by
  have system := (System.put_self (distinct.sole (System.mem_of_open? opened))).symm
  obtain ⟨tables, work, put, -⟩ := cascade_put (fun _ _ => True) (fun _ _ => trivial) opened hi
    cascade system trivial
  exact ⟨tables, work, put⟩

/-- A run that breaks off leaves no transaction. -/
theorem closed_of_broken (broken : m.run t.handle s.run = (none, m')) :
    m'.host.system.open? t.handle = none := by
  have system := (System.put_self (distinct.sole (System.mem_of_open? opened))).symm
  have left := Moment.run_put (fun _ _ => True) (fun _ _ => trivial) opened hi s.run system trivial
  rw [broken] at left
  obtain ⟨st, tx, -, closed⟩ := left
  have closed' : m'.host.system = m.host.system.close t (tx.release st) := closed
  rw [closed', System.open?_close, if_pos rfl]

theorem adds_of_chain (cascade : s.registry.Cascade t.handle m rounds m') {m'' : Moment κ ω}
    {steps : List (Moment.Step κ ω (RaisedEvent κ))}
    (recorded : Moment.Chain t.handle s.record m' steps m'') :
    s.Adds m.host.system t (steps.map (·.what)) m' m'' := by
  obtain ⟨tables, work, put⟩ := exists_put distinct opened hi cascade
  obtain ⟨messages, all, -, added, uow⟩ := chain_record opened hi put recorded
  exact ⟨tables, work, messages, put, added, all, uow⟩

/-- Events that can be written are recorded under new names. -/
theorem exists_chain_record (home : t.home = s.store)
    (cascade : s.registry.Cascade t.handle m rounds m')
    (written : ∀ e ∈ events, ∃ payload, e.payload = .ok payload)
    (new : DrawsNew s.store t.handle events.length m') :
    ∃ steps m'', Moment.Chain t.handle s.record m' steps m'' ∧ steps.map (·.what) = events := by
  obtain ⟨tables, work, put⟩ := exists_put distinct opened hi cascade
  have found : m'.host.system.open? t.handle = some { t with tx := work } := by
    rw [put]
    exact System.open?_put_self opened
  have stored : m'.host.system.store s.store = tables := by
    rw [put, ← home]
    exact System.store_put_self hi
  have free : ∀ id ∈ m'.host.upcoming events.length, work.nameTaken tables id = false :=
    stored ▸ new.2 _ found
  obtain ⟨-, m'', ran, -, -, -⟩ := run_forM_record opened hi home put written free new.1
  obtain ⟨steps, chain, all⟩ := Moment.run_forM_ok ran
  exact ⟨steps, m'', chain, all⟩

theorem cutsExactly_maxRounds (home : t.home = s.store) : s.CutsExactly t s.maxRounds m where
  ends := s.passes_or_breaks t.handle s.maxRounds m
  dispatched _ _ passes :=
    ⟨passes.cascade.made_eq, fun appends => passes.cascade.levels appends⟩
  exceeded_iff _ _ passes := run_eq_roundsExceeded_iff passes
  exceeded _ _ passes waiting := run_exceeded passes waiting
  handler_iff e m' :=
    have iff : m.run t.handle s.run = (((some e).map .handler).map .error, m') ↔ _ :=
      run_eq_handler_iff
    iff
  broken_iff m' :=
    have iff : m.run t.handle s.run =
      (((none : Option HandlerError).map .handler).map .error, m') ↔ _ := run_eq_handler_iff
    iff
  dropped _ broken := closed_of_broken distinct opened hi broken
  order _ _ _ _ breaks := breaks.order
  settled _ _ passes settled := run_settled passes settled
  unwritten rounds m' steps m'' e rest reason passes settled dispatched chain unwritten := by
    refine ⟨?_, adds_of_chain distinct opened hi passes.cascade chain⟩
    rw [run_settled passes settled, dispatched]
    exact run_recordAll_unwritten chain unwritten
  recorded _ _ _ passes written new :=
    exists_chain_record distinct opened hi home passes.cascade written new
  of_serialization tag reason m'' ran := by
    obtain ⟨rounds, m', steps, e, rest, passes, settled, chain, dispatched, same, unwritten⟩ :=
      exists_recorded_of_serialization ran
    exact ⟨rounds, m', _, e, rest, passes, settled, dispatched, same, unwritten,
      adds_of_chain distinct opened hi passes.cascade chain⟩

end AtWork

/-- **A run of the stage is cut exactly where it should be**, for any cap, of which zero counts as
one, and any registry. The transaction is open on the stage's store, in a system whose handles are
distinct, as they are after all runs (`System.distinct_run`). -/
theorem cuts_exactly (s : EventStage κ ω) (cap : Nat) {t : OpenTx} {m : Moment κ ω}
    (distinct : m.host.system.Distinct) (opened : m.host.system.open? t.handle = some t)
    (hi : t.home.index < m.host.system.stores.length) (home : t.home = s.store) :
    (s.withMaxRounds cap).CutsExactly t (max cap 1) m :=
  cutsExactly_maxRounds distinct opened hi home

end EventStage

/-! ## Rumours

One rumour is spread for ever, a second one is denied, which its handler cannot stand, and a third
one is a secret that cannot be written.
-/

/-- The event types of rumours. -/
inductive Rumour where
  | told
  | spread
  | denied
  | secret
deriving DecidableEq

namespace Rumour

/-- The tag of a type's events. -/
def tag : Rumour → String
  | .told => "told"
  | .spread => "spread"
  | .denied => "denied"
  | .secret => "secret"

instance : EventFamily Rumour where
  decEq := inferInstance
  Body _ := Unit
  typeName _ := "Rumour"
  tags k := [k.tag]
  tag k _ := k.tag
  occurredAt _ now _ := now
  write
    | .secret, _ => .error "unspeakable"
    | _, _ => .ok .null
  read _
    | .null => .ok ()
    | _ => .error (.wrongLength 1 "no rumour")

/-- A rumour that is raised. -/
def raised (k : Rumour) : RaisedEvent Rumour :=
  .raise default k ()

/-- A handler that answers a rumour with the same one. -/
def spreading : Handler Rumour (TransactionalM Rumour Unit) where
  kind := .spread
  handle _ := modify fun uow => uow.raise default .spread ()

/-- A handler that fails. -/
def denying : Handler Rumour (TransactionalM Rumour Unit) where
  kind := .denied
  handle _ := throw (.failed "denied")

/-- The stage with these handlers. -/
def stage : EventStage Rumour Unit :=
  .standard ⟨0⟩ ⟨[{ tag := "spread", owner := .spread, transactional := [spreading] },
    { tag := "denied", owner := .denied, transactional := [denying] }]⟩

/-- The transaction in which rumours are heard. -/
def hearing : OpenTx :=
  ⟨⟨0⟩, ⟨0⟩, {}⟩

/-- A moment at which rumours are waiting. -/
def heard (rumours : List Rumour) : Moment Rumour Unit where
  uow := ⟨rumours.map raised⟩
  host := {
    system := ((System.ofSize 1).beginTx ⟨0⟩).2
    clock := default
    names := fun n => ⟨.ofNat n⟩ }

end Rumour

open Rumour in
/-- The cap cuts, with a cap of two rounds; a handler cuts, in the only round; and a secret cuts,
when one rumour is recorded. -/
theorem EventStage.cuts_exactly_rumours :
    ((heard [.spread, .told]).run ⟨0⟩ (stage.withMaxRounds 2).run).1 =
        some (.error (.roundsExceeded 2)) ∧
      (∃ m' calls duty, (heard [.spread, .denied, .told]).run ⟨0⟩ (stage.withMaxRounds 0).run =
          (some (.error (.handler (.failed "denied"))), m') ∧
        stage.registry.Breaks ⟨0⟩ 1 (heard [.spread, .denied, .told]) calls duty
          (some (.failed "denied")) m') ∧
      ∃ m' m'', (heard [.told, .secret, .told]).run ⟨0⟩ (stage.withMaxRounds 1).run =
          (some (.error (.serialization "secret" "unspeakable")), m'') ∧
        (stage.withMaxRounds 1).Adds (heard []).host.system hearing [raised .told] m' m'' := by
  have distinct : (heard []).host.system.Distinct := List.nodup_singleton _
  have cuts (rumours : List Rumour) (cap : Nat) :
      (stage.withMaxRounds cap).CutsExactly hearing (max cap 1) (heard rumours) :=
    EventStage.cuts_exactly stage cap distinct rfl Nat.one_pos rfl
  refine ⟨?_, ?_, ?_⟩
  · rfl
  · obtain ⟨calls, duty, breaks⟩ := ((cuts [.spread, .denied, .told] 0).handler_iff _ _).mp rfl
    exact ⟨_, calls, duty, rfl, breaks⟩
  · -- no handler is called in the only round
    have passes : stage.registry.Passes ⟨0⟩ 1 (heard [.told, .secret, .told])
        [⟨[raised .told, raised .secret, raised .told], []⟩] (heard []) :=
      ⟨.round (List.cons_ne_nil _ _) rfl rfl (.rest _), Nat.le_refl 1, fun _ => rfl⟩
    have new : DrawsNew ⟨0⟩ ⟨0⟩ 1 (heard []) := by
      refine ⟨List.nodup_singleton _, fun t found id _ => ?_⟩
      cases found
      rfl
    have cut := cuts [.told, .secret, .told] 1
    obtain ⟨steps, m'', chain, all⟩ := cut.recorded _ _ [raised .told] passes
      (List.forall_mem_singleton.mpr ⟨.null, rfl⟩) new
    obtain ⟨ran, adds⟩ := cut.unwritten _ _ steps m'' (raised .secret) [raised .told] "unspeakable"
      passes rfl (by rw [all]; rfl) chain rfl
    exact ⟨_, m'', ran, all ▸ adds⟩

end MaintenanceOutbox
