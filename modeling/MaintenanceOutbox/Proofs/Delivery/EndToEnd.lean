import MaintenanceOutbox.Proofs.Delivery.Posting
import MaintenanceOutbox.Proofs.Payload.Events
import MaintenanceOutbox.Proofs.Pipeline.Publishing

set_option autoImplicit false

/-! # From a command to the notifications

A command raises events of maintenance. They are recorded as messages in the command's transaction,
claimed by a worker one after the other, decoded, and handed as notifications to the sink. Nothing
gets lost, repeated or out of order on the way (`Worker.delivers_raised`): the sink is told about
each event once, in the order in which the command raised them, exactly what would have been told
about the event itself.

Three things come together. The stage records events in order and at one time, and the table numbers
them in that order (`EventStage.execute_publishes`); a stored event is decoded to what was raised
(`MaintenanceEvent.decode_toJson`); and a worker delivers messages of one time in the order of their
numbers (`Worker.drains_queue`).
-/

namespace MaintenanceOutbox

variable {κ ω ε α : Type} [EventFamily κ]

/-- **The sink tells the outside world** what `report` makes of a notification, and it always
succeeds. -/
def NotificationSink.Tells (sink : NotificationSink ω) (report : Notification → List ω) : Prop :=
  ∀ n, (sink n).Tells () (report n)

/-- **The command raises the events**, in this order, and nothing else is to be delivered after it:
its own work succeeds, the names of the messages will be new, and no other row is claimable. -/
structure EventStage.Raises (s : EventStage (WithMaintenance κ) ω)
    (command : CommandM (WithMaintenance κ) ω ε α) (h : Host ω) (output : α)
    (events : List MaintenanceEvent) (m : Moment (WithMaintenance κ) ω) (tx : Tx) : Prop
    extends s.Leaves command h output m tx where
  raised : m.uow.raised = events.map (·.raise h.clock)
  names : s.NewNames h tx (m.host.upcoming events.length)
  nothingElse : ∀ r ∈ (tx.changes.apply (h.system.store s.store)).rows,
    r.message.isClaimable = false

/-- Messages that were recorded together, behind rows that are not claimable, are a queue. -/
theorem EventStage.queues_extended {s : EventStage κ ω} {now : Timestamp}
    {events : List (RaisedEvent κ)} {messages : List QueuedMessage} {st : Store}
    (recorded : List.Forall₂ (s.RecordedAt now) events messages)
    (tidy : (st.extended messages).Tidy) (unlocked : st.locked = [])
    (nothingElse : ∀ r ∈ st.rows, r.message.isClaimable = false) :
    (st.extended messages).Queues st.rows st.nextSeq messages := by
  have all := claimable_of_recorded recorded
  refine ⟨tidy, unlocked, rfl, nothingElse, fun message hm => (all message hm).1, ?_⟩
  intro message hm message' hm'
  rw [(all message hm).2, (all message' hm').2]

namespace Worker

variable {s : EventStage (WithMaintenance κ) ω} {w : Worker (WithMaintenance κ) ω}
  {sink : NotificationSink ω} {report : Notification → List ω} {now : Timestamp}

/-- A message that records an event is delivered to one handler, which tells the sink about the
event. -/
theorem deliver_recorded (registered : maintenanceRegistry sink = .ok w.registry)
    (tells : sink.Tells report) {e : MaintenanceEvent} {message : QueuedMessage}
    (recorded : s.RecordedAs (e.raise now) message) :
    (w.deliver message).Tells 1 (report e.notification) := by
  have tag : message.eventType = e.tag := recorded.tag.trans (e.tag_raise now)
  have payload : message.payload = e.toJson := by
    have written := recorded.payload
    rw [e.payload_raise now] at written
    exact (Except.ok.inj written).symm
  refine DeferredM.Tells.now_bind fun time => ?_
  rw [tag, payload, e.decode_toJson time registered]
  dsimp only
  rw [e.dispatchDeferred_raise time registered, ← List.append_nil (report e.notification)]
  exact (tells e.notification).bind (.pure 1)

/-- Each of the messages that record some events tells the sink about its event. -/
theorem deliver_all_recorded (registered : maintenanceRegistry sink = .ok w.registry)
    (tells : sink.Tells report) {events : List MaintenanceEvent} {messages : List QueuedMessage}
    (recorded : List.Forall₂ s.RecordedAs (events.map (·.raise now)) messages) :
    List.Forall₂ (fun message notes => (w.deliver message).Tells 1 notes) messages
      (events.map fun e => report e.notification) := by
  rw [List.forall₂_map_left_iff] at recorded
  rw [List.forall₂_map_right_iff]
  exact (recorded.imp fun _ _ own => deliver_recorded registered tells own).flip

/-- **From a command to the notifications.** The command succeeds, and its store has a row for each
event behind the rows that the command left. A worker that is asked for one message after the other,
at any times, delivers these rows one by one, each to one handler, until nothing is claimable. The
sink is told about each event in order, the rows are marked in their places, and nothing becomes a
dead letter. -/
theorem delivers_raised {n : Nat} {calls : List Call} {h : Host ω}
    {command : CommandM (WithMaintenance κ) ω ε α} {output : α} {events : List MaintenanceEvent}
    {m : Moment (WithMaintenance κ) ω} {tx : Tx} (hi : s.store.index < n)
    (reached : h.system = (System.ofSize n).run calls) (quiet : h.system.openOn s.store = [])
    (registered : maintenanceRegistry sink = .ok s.registry) (tells : sink.Tells report)
    (rounds : 0 < s.maxRounds) (raises : s.Raises command h output events m tx)
    (shared : w.registry = s.registry) (home : w.store = s.store) :
    ∃ messages h', Host.run (s.execute command) h = (some (.ok output), h') ∧
      List.Forall₂ s.RecordedAs (events.map (·.raise h.clock)) messages ∧
      h'.system.store s.store =
        (tx.changes.apply (h.system.store s.store)).extended messages ∧
      ∀ (times : Nat → Timestamp) (c : Clocked ω), c.host = h' → ∃ c',
        w.Drains times c (messages.map fun message => .processed message.id 1) c' ∧
        c'.told = c.told ++ events.flatMap (fun e => report e.notification) ∧
        Handed (c.system.store s.store) (tx.changes.apply (h.system.store s.store)).rows
          (tx.changes.apply (h.system.store s.store)).nextSeq messages
          (c'.system.store s.store) := by
  -- the store before the command
  have orderly : h.system.Orderly := by
    rw [reached]
    exact System.orderly_run (System.orderly_ofSize n) calls
  have inside : s.store.index < h.system.stores.length := by
    rw [reached]
    exact System.index_lt_run hi calls
  have tidy : (h.system.store s.store).Tidy := by
    rw [reached]
    exact System.tidy_run hi calls
  have unlocked : (h.system.store s.store).locked = [] := by
    rw [reached] at quiet ⊢
    exact System.locked_eq_nil hi quiet
  -- the command publishes its events
  have length : m.uow.raised.length = events.length := by
    rw [raises.raised, List.length_map]
  have written : ∀ e ∈ m.uow.raised, ∃ payload, e.payload = .ok payload := by
    rw [raises.raised]
    intro e he
    obtain ⟨event, -, rfl⟩ := List.mem_map.mp he
    exact ⟨_, event.payload_raise h.clock⟩
  obtain ⟨messages, h', ran, recorded, -, applied, system⟩ := EventStage.execute_publishes orderly
    inside (MaintenanceEvent.transactional_eq_nil registered) rounds raises.toLeaves written
    (length ▸ raises.names)
  rw [raises.raised] at recorded
  have store : h'.system.store s.store =
      (tx.changes.apply (h.system.store s.store)).extended messages := by
    rw [system, ← applied]
    exact System.store_setStore_self inside _
  refine ⟨messages, h', ran, recorded.imp fun _ _ => (·.toRecordedAs), store, ?_⟩
  rintro times c rfl
  -- they are a queue, with nothing claimable in front of it
  have queue : (c.system.store w.store).Queues (tx.changes.apply (h.system.store s.store)).rows
      (tx.changes.apply (h.system.store s.store)).nextSeq messages := by
    have stored : c.system.store w.store =
        (tx.changes.apply (h.system.store s.store)).extended messages := by
      rw [home]
      exact store
    rw [stored]
    refine EventStage.queues_extended recorded ?_ ((Changes.locked_apply _ _).trans unlocked)
      raises.nothingElse
    rw [← applied]
    exact tidy.apply _
  have delivered := deliver_all_recorded (w := w) (shared ▸ registered) tells
    (recorded.imp fun _ _ => (·.toRecordedAs))
  have orderly' : c.system.Orderly := by
    show c.host.system.Orderly
    rw [system]
    exact System.orderly_later orderly _
  have inside' : w.store.index < c.system.stores.length := by
    show w.store.index < c.host.system.stores.length
    rw [system, home]
    exact (System.length_stores_later h.system s.store _).symm ▸ inside
  obtain ⟨c', drains, told, handed⟩ := drains_queue times orderly' inside' queue delivered
  refine ⟨c', drains, ?_, home ▸ handed⟩
  rw [told, List.flatMap_def]

end Worker

/-! ## An office

A command opens a work order and records a visit at an asset, on a store with one message that was
delivered long ago.
-/

namespace Office

/-- The sink that passes notifications on as they are. -/
def sink : NotificationSink Notification := fun n => ExceptT.lift (TxProgram.tell n)

/-- The registry with this sink. -/
def registry : Registry (WithMaintenance Errand) Notification :=
  (maintenanceRegistry sink).toOption.getD .empty

/-- The two events. -/
def events : List MaintenanceEvent :=
  [.workOrder (.opened ⟨⟨.ofNat 7⟩, ⟨.ofNat 8⟩, "leaking valve", default⟩),
    .asset (.serviced ⟨⟨.ofNat 8⟩, 1, "oil changed", default⟩)]

/-- The command. -/
def report : CommandM (WithMaintenance Errand) Notification String Unit :=
  modify fun uow => ⟨uow.raised ++ events.map (·.raise default)⟩

/-- The stage of the command. -/
def stage : EventStage (WithMaintenance Errand) Notification :=
  .standard ⟨0⟩ registry

/-- The worker on its store. -/
def clerk : Worker (WithMaintenance Errand) Notification where
  name := "clerk"
  store := ⟨0⟩
  registry := registry
  batchSize := 1
  pollMs := 0

/-- What happened before. -/
def past : List Call :=
  [.beginTx ⟨0⟩, .request default ⟨0⟩ ⟨0⟩ (.add (.fresh ⟨.ofNat 1⟩ default "done" .null)),
    .request default ⟨0⟩ ⟨0⟩ (.markProcessed ⟨.ofNat 1⟩), .commit ⟨0⟩ ⟨0⟩]

/-- The host of the command. -/
def site : Host Notification where
  system := (System.ofSize 1).run past
  clock := default
  names n := ⟨.ofNat (n + 2)⟩

/-- The moment when the command is done with its own work. -/
def reported : Moment (WithMaintenance Errand) Notification :=
  ((stage.opening site).run (stage.commandTx site).handle report).2

theorem tells : sink.Tells fun n => [n] :=
  fun n => DeferredM.Tells.tell n

theorem raises : stage.Raises report site () events reported {} where
  handled := rfl
  left := rfl
  raised := rfl
  names := ⟨by decide +kernel, by decide +kernel, by decide +kernel⟩
  nothingElse := by decide +kernel

end Office

theorem Worker.delivers_raised_report :
    ∃ (messages : List QueuedMessage) (h' : Host Notification) (c' : Clocked Notification),
      Host.run (Office.stage.execute Office.report) Office.site = (some (.ok ()), h') ∧
      Office.clerk.Drains (fun _ => default) ⟨h', 0⟩
        (messages.map fun message => .processed message.id 1) c' ∧
      c'.told = h'.told ++ Office.events.map (·.notification) := by
  obtain ⟨messages, h', ran, -, -, later⟩ := Worker.delivers_raised (w := Office.clerk) Nat.one_pos
    rfl rfl rfl Office.tells (by decide) Office.raises rfl rfl
  obtain ⟨c', drains, told, -⟩ := later (fun _ => default) ⟨h', 0⟩ rfl
  exact ⟨messages, h', c', ran, drains, told⟩

end MaintenanceOutbox
