import MaintenanceOutbox.Proofs.Pipeline.Rounds
import MaintenanceOutbox.Proofs.Store.Additions

set_option autoImplicit false

/-! # Events and their messages

When all rounds of dispatch are over, the event stage records the events that were dispatched: it
adds a message for each of them to the transaction, in the order of dispatch. A recording changes
nothing but that, and it is refused if the event cannot be written or if the store refuses the
message.

**Exactly once, level by level** (`EventStage.run_records`). A run of the stage that counts `n`
events dispatched `n` events, each of them once to each of its handlers, and added `n` messages, one
for each. The first level are the events that were waiting, and every other level is what the
handlers raised while the level before it was dispatched.
-/

namespace MaintenanceOutbox

variable {κ ω : Type} [EventFamily κ]

namespace EventStage

variable {s : EventStage κ ω} {tx : TxHandle} {m m' : Moment κ ω} {e : RaisedEvent κ}

/-- The message that the stage makes of an event with the given payload, on a host. -/
def messageAt (s : EventStage κ ω) (h : Host ω) (e : RaisedEvent κ) (payload : Json) :
    QueuedMessage :=
  (QueuedMessage.fresh (h.names h.drawn) h.clock e.tag payload).withMaxRetries s.maxRetries

/-- **A message records an event**: it carries the event's tag and payload, has the budget of the
stage, at least one attempt, and is ready to be delivered. -/
structure RecordedAs (s : EventStage κ ω) (e : RaisedEvent κ) (message : QueuedMessage) : Prop where
  tag : message.eventType = e.tag
  payload : e.payload = .ok message.payload
  budget : message.maxRetries.toNat = max 1 s.maxRetries.toNat
  untried : message.retryCount = 0
  pending : message.isPending = true
  claimable : message.isClaimable = true

theorem toNat_atLeastOne (budget : UInt32) : (atLeastOne budget).toNat = max 1 budget.toNat := by
  rw [atLeastOne]
  split
  · next zero => rw [zero]; rfl
  · next some =>
      have positive : budget.toNat ≠ 0 := fun zero => some (UInt32.toNat_inj.mp zero)
      omega

theorem recordedAs_messageAt (s : EventStage κ ω) (h : Host ω) {payload : Json}
    (written : e.payload = .ok payload) : s.RecordedAs e (s.messageAt h e payload) := by
  have budget := toNat_atLeastOne s.maxRetries
  refine ⟨rfl, written, budget, rfl, rfl, ?_⟩
  have left : ¬ atLeastOne s.maxRetries ≤ 0 := by
    rw [UInt32.le_iff_toNat_le, budget]
    simp
  show (true && !decide (atLeastOne s.maxRetries ≤ 0)) = true
  rw [decide_eq_false left]
  rfl

theorem run_lifted {α : Type} {p : TxProgram ω α} {a : α} {h' : Host ω}
    (ran : m.host.inside tx p = (some a, h')) :
    m.run tx (lifted p) = (some (.ok a), ⟨m.uow, h'⟩) :=
  Moment.run_lift ran

/-- The host after a message was named. -/
theorem run_messageOf (s : EventStage κ ω) (tx : TxHandle) (m : Moment κ ω) (e : RaisedEvent κ) :
    m.run tx (s.messageOf e) =
      match e.payload with
      | .error reason => (some (.error (.serialization e.tag reason)), m)
      | .ok payload =>
        (some (.ok (s.messageAt m.host e payload)),
          ⟨m.uow, { m.host with drawn := m.host.drawn + 1 }⟩) := by
  rw [messageOf]
  cases e.payload with
  | error reason => rfl
  | ok payload => rfl

/-- **To record an event** is to make a message of it and to add that to the store. It never breaks
off. -/
theorem run_record (s : EventStage κ ω) (tx : TxHandle) (m : Moment κ ω) (e : RaisedEvent κ) :
    m.run tx (s.record e) =
      match e.payload with
      | .error reason => (some (.error (.serialization e.tag reason)), m)
      | .ok payload =>
        let added := m.host.system.request m.host.clock s.store tx
          (.add (s.messageAt m.host e payload))
        (some ((added.1.map fun _ => ()).mapError .store),
          ⟨m.uow, { m.host with system := added.2, drawn := m.host.drawn + 1 }⟩) := by
  rw [record, Moment.run_bind, run_messageOf]
  cases e.payload with
  | error reason => rfl
  | ok payload =>
      dsimp only
      obtain ⟨reply, ran, answered⟩ := Host.inside_request tx s.store
        (r := .add (s.messageAt m.host e payload)) { m.host with drawn := m.host.drawn + 1 } nofun
      rw [Moment.run_bind, run_lifted ran]
      dsimp only at answered ⊢
      rw [answered]
      cases reply with
      | error err => rfl
      | ok added => rfl

theorem run_record_stopped {e? : Option (PipelineError Empty)}
    (h : m.run tx (s.record e) = (e?.map .error, m')) :
    (∃ reason, e.payload = .error reason ∧ e? = some (.serialization e.tag reason)) ∨
      ∃ payload error, e.payload = .ok payload ∧ e? = some (.store error) ∧
        (m.host.system.request m.host.clock s.store tx (.add (s.messageAt m.host e payload))).1 =
          .error error := by
  rw [run_record] at h
  cases written : e.payload with
  | error reason =>
      rw [written] at h
      cases e? <;> cases h
      exact Or.inl ⟨reason, rfl, rfl⟩
  | ok payload =>
      rw [written] at h
      dsimp only at h
      cases added : (m.host.system.request m.host.clock s.store tx
        (.add (s.messageAt m.host e payload))).1 with
      | error error =>
          rw [added] at h
          cases e? <;> cases h
          exact Or.inr ⟨payload, error, rfl, rfl, added⟩
      | ok done =>
          rw [added] at h
          cases e? <;> cases h

section AtWork

variable {s₀ : System} {t : OpenTx} {st : Store} {work : Tx}
  (opened : s₀.open? t.handle = some t) (hi : t.home.index < s₀.stores.length)
include opened hi

/-- **A recording that succeeds** adds a message of the event, under a new name. -/
theorem record_put (system : m.host.system = s₀.put t st work)
    (h : m.run t.handle (s.record e) = (some (.ok ()), m')) :
    ∃ message, s.RecordedAs e message ∧ work.nameTaken st message.id = false ∧
      m'.host.system = s₀.put t st (work.adding [message]) ∧ m'.uow = m.uow := by
  rw [run_record] at h
  cases written : e.payload with
  | error reason =>
      rw [written] at h
      cases h
  | ok payload =>
      rw [written] at h
      dsimp only at h
      have records := recordedAs_messageAt s m.host written
      generalize s.messageAt m.host e payload = message at h records
      rw [system] at h
      by_cases home : t.home = s.store
      · rw [← home, System.request_put opened hi] at h
        dsimp only [Tx.request] at h
        cases added : work.add st message with
        | error err =>
            rw [added] at h
            cases h
        | ok work' =>
            obtain ⟨free, rfl⟩ := Tx.add_eq_ok_iff.mp added
            rw [added] at h
            cases h
            exact ⟨message, records, free, rfl, rfl⟩
      · rw [System.request_put_foreign opened home] at h
        cases h

/-- **A chain of recordings** adds one message for each event, in order. -/
theorem chain_record {steps : List (Moment.Step κ ω (RaisedEvent κ))}
    (system : m.host.system = s₀.put t st work)
    (chain : Moment.Chain t.handle s.record m steps m') :
    ∃ messages, List.Forall₂ s.RecordedAs (steps.map (·.what)) messages ∧
      work.NewNames st messages ∧ m'.host.system = s₀.put t st (work.adding messages) ∧
        m'.uow = m.uow := by
  induction steps generalizing m work with
  | nil =>
      obtain rfl : m = m' := chain
      refine ⟨[], .nil, ⟨fun _ none => absurd none List.not_mem_nil, List.nodup_nil⟩, ?_, rfl⟩
      rw [Tx.adding_nil, system]
  | cons step rest ih =>
      obtain ⟨rfl, first, later⟩ := chain
      obtain ⟨message, records, free, system₁, uow₁⟩ := record_put opened hi system first
      obtain ⟨messages, all, names, system', uow'⟩ := ih system₁ later
      refine ⟨message :: messages, .cons records all, names.cons free, ?_, uow'.trans uow₁⟩
      rw [system', Tx.adding_adding]
      rfl

end AtWork

end EventStage

/-! ## A run of the stage -/

/-- **The course of a run of the stage**: the rounds of dispatch, the moment when they were over,
the transaction and the tables of its home at that moment, and the messages that were recorded then.
-/
structure StageCourse (κ ω : Type) [EventFamily κ] where
  rounds : List (Round κ ω)
  settled : Moment κ ω
  tx : Tx
  tables : Store
  messages : List QueuedMessage

namespace StageCourse

/-- The events that were dispatched, in order. -/
def events (c : StageCourse κ ω) : List (RaisedEvent κ) :=
  Round.dispatched c.rounds

/-- **The course of a run** of the stage `s` from `m` to `m'`, in the transaction `t` of the system
`s₀`. -/
structure Leads (c : StageCourse κ ω) (s : EventStage κ ω) (s₀ : System) (t : OpenTx)
    (m m' : Moment κ ω) : Prop where
  dispatch : s.registry.Cascade t.handle m c.rounds c.settled
  /-- the rounds go on until no event is waiting -/
  quiet : c.settled.uow = .empty
  bound : c.rounds.length ≤ s.maxRounds
  /-- each event met each of its handlers once -/
  once : (Round.made c.rounds).map (·.what) = s.registry.duties c.events
  /-- each event has its message -/
  recorded : List.Forall₂ s.RecordedAs c.events c.messages
  names : c.tx.NewNames c.tables c.messages
  /-- what the transaction came to in the rounds -/
  before : c.settled.host.system = s₀.put t c.tables c.tx
  /-- the recording added the messages to the transaction, and did nothing else to the system -/
  added : m'.host.system = s₀.put t c.tables (c.tx.adding c.messages)
  empty : m'.uow = .empty

end StageCourse

namespace EventStage

variable {s : EventStage κ ω} {tx : TxHandle} {m m' : Moment κ ω}

/-- A run of the stage is a dispatch and then a recording. -/
theorem run_ok {n : Nat} (h : m.run tx s.run = (some (.ok n), m')) :
    ∃ rounds settled steps, s.registry.Cascade tx m rounds settled ∧ settled.uow = .empty ∧
      rounds.length ≤ s.maxRounds ∧ Moment.Chain tx s.record settled steps m' ∧
        steps.map (·.what) = Round.dispatched rounds ∧ n = (Round.dispatched rounds).length := by
  obtain ⟨events, settled, dispatch, later⟩ := Moment.run_bind_ok h
  obtain ⟨⟨⟩, m₁, recording, last⟩ := Moment.run_bind_ok later
  obtain ⟨rounds, cascade, empty, bound, rfl⟩ := run_dispatchRounds_ok dispatch
  obtain ⟨steps, chain, all⟩ := Moment.run_forM_ok recording
  cases last
  exact ⟨rounds, settled, steps, cascade, empty, bound, chain, all, rfl⟩

/-- **Why a run of the stage fails**, or, without an error, why it breaks off. -/
inductive Stops (s : EventStage κ ω) (tx : TxHandle) (m : Moment κ ω) :
    Option (PipelineError Empty) → Prop where
  | dispatch {e? : Option (PipelineError Empty)} (stops : s.DispatchStops tx s.maxRounds m e?) :
      Stops s tx m e?
  /-- An event cannot be written, after all rounds and the recording of some events. -/
  | serialization {rounds : List (Round κ ω)} {settled m₁ : Moment κ ω}
      {steps : List (Moment.Step κ ω (RaisedEvent κ))} {e : RaisedEvent κ}
      {rest : List (RaisedEvent κ)} {reason : String}
      (cascade : s.registry.Cascade tx m rounds settled) (quiet : settled.uow = .empty)
      (recording : Moment.Chain tx s.record settled steps m₁)
      (next : Round.dispatched rounds = steps.map (·.what) ++ e :: rest)
      (unwritten : e.payload = .error reason) : Stops s tx m (some (.serialization e.tag reason))
  /-- The store refuses a message, after all rounds and the recording of some events. -/
  | store {rounds : List (Round κ ω)} {settled m₁ : Moment κ ω}
      {steps : List (Moment.Step κ ω (RaisedEvent κ))} {e : RaisedEvent κ}
      {rest : List (RaisedEvent κ)} {payload : Json} {error : StoreError}
      (cascade : s.registry.Cascade tx m rounds settled) (quiet : settled.uow = .empty)
      (recording : Moment.Chain tx s.record settled steps m₁)
      (next : Round.dispatched rounds = steps.map (·.what) ++ e :: rest)
      (written : e.payload = .ok payload)
      (refused : (m₁.host.system.request m₁.host.clock s.store tx
        (.add (s.messageAt m₁.host e payload))).1 = .error error) :
      Stops s tx m (some (.store error))

theorem run_stops {e? : Option (PipelineError Empty)}
    (h : m.run tx s.run = (e?.map .error, m')) : s.Stops tx m e? := by
  rcases Moment.run_bind_stopped h with stopped | ⟨events, settled, dispatch, later⟩
  · exact .dispatch (run_dispatchRounds_stopped stopped)
  · obtain ⟨rounds, cascade, quiet, -, rfl⟩ := run_dispatchRounds_ok dispatch
    rcases Moment.run_bind_stopped later with stopped | ⟨⟨⟩, m₁, -, last⟩
    · obtain ⟨steps, event, rest, m₁, recording, next, stopped⟩ := Moment.run_forM_stopped stopped
      rcases run_record_stopped stopped with ⟨reason, unwritten, rfl⟩ |
        ⟨payload, error, written, rfl, refused⟩
      · exact .serialization cascade quiet recording next unwritten
      · exact .store cascade quiet recording next written refused
    · cases e? <;> cases last

section AtWork

variable {s₀ : System} {t : OpenTx} {st : Store} {work : Tx} (keeps : Store → Tx → Prop)
  (moves : ∀ {st st' : Store} {tx tx' : Tx} {r : TxRequest},
    keeps st tx → tx.Moves st r st' tx' → keeps st' tx')
  (opened : s₀.open? t.handle = some t) (hi : t.home.index < s₀.stores.length)
include moves opened hi

/-- The rounds of a dispatch change the transaction and the tables of its home. -/
theorem cascade_put {rounds : List (Round κ ω)} {r : Registry κ ω}
    (cascade : r.Cascade t.handle m rounds m') (system : m.host.system = s₀.put t st work)
    (kept : keeps st work) :
    ∃ st' work', m'.host.system = s₀.put t st' work' ∧ keeps st' work' := by
  induction cascade generalizing st work with
  | rest m => exact ⟨st, work, system, kept⟩
  | @round m _ _ _ _ waiting calling all later ih =>
      obtain ⟨st₁, work₁, system₁, kept₁⟩ :=
        Moment.chain_put keeps moves opened hi (m := ⟨.empty, m.host⟩) calling system kept
      exact ih system₁ kept₁

/-- **A run of the stage that succeeds has a course.** -/
theorem run_course {n : Nat} (system : m.host.system = s₀.put t st work) (kept : keeps st work)
    (h : m.run t.handle s.run = (some (.ok n), m')) :
    ∃ c : StageCourse κ ω, c.Leads s s₀ t m m' ∧ n = c.events.length ∧ keeps c.tables c.tx := by
  obtain ⟨rounds, settled, steps, cascade, empty, bound, chain, all, counted⟩ := run_ok h
  obtain ⟨st₁, work₁, before, kept₁⟩ := cascade_put keeps moves opened hi cascade system kept
  obtain ⟨messages, recorded, names, added, uow⟩ := chain_record opened hi before chain
  rw [all] at recorded
  exact ⟨⟨rounds, settled, work₁, st₁, messages⟩,
    ⟨cascade, empty, bound, cascade.made_eq, recorded, names, before, added, uow.trans empty⟩,
    counted, kept₁⟩

end AtWork

/-- **Every event is dispatched and recorded exactly once, level by level.** If a run of the stage
counts `n` events, then its rounds are the levels of the events that were waiting, `n` events in
all, each of which met each of its handlers once, in order; and the run added `n` messages to the
transaction, one for each event, in the same order. An event without a route has no handlers, and
has its message nevertheless. The transaction is open in a system whose handles are distinct, as
they are after all runs (`System.distinct_run`). -/
theorem run_records {t : OpenTx} {n : Nat} (appends : s.registry.AppendsOnly)
    (distinct : m.host.system.Distinct) (opened : m.host.system.open? t.handle = some t)
    (hi : t.home.index < m.host.system.stores.length)
    (h : m.run t.handle s.run = (some (.ok n), m')) :
    ∃ c : StageCourse κ ω, c.Leads s m.host.system t m m' ∧
      Round.Levels m.uow.raised c.rounds [] ∧ c.events.length = n ∧ c.messages.length = n ∧
        ∀ e ∈ c.events, s.registry.route? e.tag = none →
          s.registry.handlersOf e = [] ∧ ∃ message ∈ c.messages, s.RecordedAs e message := by
  have system := (System.put_self (distinct.sole (System.mem_of_open? opened))).symm
  obtain ⟨c, leads, counted, -⟩ := run_course (fun _ _ => True) (fun _ _ => trivial) opened hi
    system trivial h
  have levels := leads.dispatch.levels appends
  rw [leads.quiet] at levels
  have rows : c.messages.length = n := leads.recorded.length_eq.symm.trans counted.symm
  refine ⟨c, leads, levels, counted.symm, rows, ?_⟩
  intro e dispatched unrouted
  refine ⟨by rw [Registry.handlersOf, unrouted], ?_⟩
  obtain ⟨i, hi, rfl⟩ := List.getElem_of_mem dispatched
  have inside : i < c.messages.length := leads.recorded.length_eq ▸ hi
  exact ⟨c.messages[i], List.getElem_mem inside, leads.recorded.get hi inside⟩

end EventStage

/-! ## A countdown

A handler that answers a number with the next smaller one, and zero with an event that has no route.
-/

/-- The two event types of a countdown. -/
inductive Countdown where
  | count
  | ended
deriving DecidableEq

instance : EventFamily Countdown where
  decEq := inferInstance
  Body _ := Nat
  typeName _ := "Countdown"
  tags
    | .count => ["count"]
    | .ended => ["ended"]
  tag
    | .count, _ => "count"
    | .ended, _ => "ended"
  occurredAt _ now _ := now
  write _ _ := .ok .null
  read _ _ := .ok (0 : Nat)

namespace Countdown

/-- Raise what follows a number. -/
def raiseNext (uow : UnitOfWork Countdown) : Nat → UnitOfWork Countdown
  | 0 => uow.raise default .ended (0 : Nat)
  | n + 1 => uow.raise default .count n

/-- The handler of a number. -/
def counting : Handler Countdown (TransactionalM Countdown Unit) where
  kind := .count
  handle n := modify fun uow => raiseNext uow n

/-- The stage with this handler. -/
def stage : EventStage Countdown Unit :=
  .standard ⟨0⟩ ⟨[{ tag := "count", owner := .count, transactional := [counting] }]⟩

/-- A transaction in which the countdown is started. -/
def started (n : Nat) : Moment Countdown Unit where
  uow := ⟨[.raise default .count n]⟩
  host := {
    system := ((System.ofSize 1).beginTx ⟨0⟩).2
    clock := default
    names := fun n => ⟨.ofNat n⟩ }

theorem appendsOnly : stage.registry.AppendsOnly := by
  intro route hroute h hh body tx m m' result ran
  rw [List.mem_singleton.mp hroute] at hh
  obtain rfl := List.mem_singleton.mp hh
  cases ran
  cases body with
  | zero => exact List.prefix_append _ _
  | succ k => exact List.prefix_append _ _

end Countdown

theorem EventStage.run_records_countdown :
    ∃ m' : Moment Countdown Unit,
      (Countdown.started 1).run ⟨0⟩ Countdown.stage.run = (some (.ok 3), m') ∧
        ∃ c : StageCourse Countdown Unit,
          c.Leads Countdown.stage (Countdown.started 1).host.system ⟨⟨0⟩, ⟨0⟩, {}⟩
            (Countdown.started 1) m' ∧ c.events.length = 3 ∧ c.messages.length = 3 := by
  refine ⟨_, rfl, ?_⟩
  have distinct : (Countdown.started 1).host.system.Distinct := List.nodup_singleton _
  obtain ⟨c, leads, -, events, rows, -⟩ := EventStage.run_records (t := ⟨⟨0⟩, ⟨0⟩, {}⟩)
    Countdown.appendsOnly distinct rfl Nat.one_pos rfl
  exact ⟨c, leads, events, rows⟩

end MaintenanceOutbox
