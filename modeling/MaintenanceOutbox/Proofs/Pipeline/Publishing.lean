import MaintenanceOutbox.Proofs.Pipeline.Atomicity

set_option autoImplicit false

/-! # Commands whose events are recorded

When does a command succeed? Its own work has to, no handler may stand in the way, and the store has
to accept the messages. If all handlers are deferred ones and the names that are drawn for the
messages are new, then nothing is in the way (`EventStage.execute_publishes`): the command succeeds,
and there is one new row for each event that it raised, in the order in which it raised them, all of
them created at the same time.
-/

namespace MaintenanceOutbox

/-- The names that a host gives to the next `n` messages. -/
def Host.upcoming {ω : Type} (h : Host ω) (n : Nat) : List MessageId :=
  (List.range n).map fun i => h.names (h.drawn + i)

theorem Host.upcoming_succ {ω : Type} (h : Host ω) (n : Nat) :
    h.upcoming (n + 1) = h.names h.drawn :: { h with drawn := h.drawn + 1 }.upcoming n := by
  rw [upcoming, List.range_succ_eq_map, List.map_cons, List.map_map]
  refine congrArg (List.cons _) (List.map_congr_left fun i _ => ?_)
  show h.names (h.drawn + (i + 1)) = h.names (h.drawn + 1 + i)
  rw [Nat.add_right_comm, Nat.add_assoc]

/-- The tables with more messages behind all rows. -/
def Store.extended (st : Store) (ms : List QueuedMessage) : Store :=
  { st with nextSeq := st.nextSeq + ms.length, rows := st.rows ++ Row.numbered st.nextSeq ms }

variable {κ ω ε α : Type} [EventFamily κ]

/-- All handlers are deferred ones. -/
def Registry.DeferredOnly (r : Registry κ ω) : Prop :=
  ∀ route ∈ r.routes, route.transactional = []

theorem Registry.DeferredOnly.duties_eq_nil {r : Registry κ ω} (deferred : r.DeferredOnly)
    (events : List (RaisedEvent κ)) : r.duties events = [] := by
  have none : ∀ e, r.handlersOf e = [] := by
    intro e
    rw [handlersOf]
    split
    · next route found => exact deferred route (List.mem_of_find?_eq_some found)
    · rfl
  simp [duties, none]

namespace EventStage

variable {s : EventStage κ ω} {tx : TxHandle} {m : Moment κ ω}

/-! ## The stage -/

/-- If all handlers are deferred ones, the first round of dispatch is the last one. -/
theorem run_dispatchRounds_deferred (deferred : s.registry.DeferredOnly) {left : Nat}
    (positive : 0 < left) :
    m.run tx (s.dispatchRounds left []) = (some (.ok m.uow.raised), ⟨.empty, m.host⟩) := by
  obtain ⟨left, rfl⟩ := Nat.exists_eq_add_of_lt positive
  by_cases waiting : m.uow.raised = []
  · rw [run_dispatchRounds_done _ [] waiting, waiting]
    obtain ⟨⟨raised⟩, host⟩ := m
    obtain rfl : raised = [] := waiting
    rfl
  · rw [Nat.zero_add, run_dispatchRounds_succ left [] waiting, dispatchAll_eq,
      deferred.duties_eq_nil]
    show Moment.run tx (s.dispatchRounds left m.uow.raised) ⟨.empty, m.host⟩ = _
    exact run_dispatchRounds_done left m.uow.raised rfl

/-- **A message records an event** under a name, at a time. -/
structure RecordedAt (s : EventStage κ ω) (now : Timestamp) (e : RaisedEvent κ)
    (message : QueuedMessage) : Prop extends s.RecordedAs e message where
  createdAt : message.createdAt = now

/-- Messages that record events are claimable, and created together. -/
theorem claimable_of_recorded {now : Timestamp} {events : List (RaisedEvent κ)}
    {messages : List QueuedMessage} (recorded : List.Forall₂ (s.RecordedAt now) events messages) :
    ∀ message ∈ messages, message.isClaimable = true ∧ message.createdAt = now := by
  induction recorded with
  | nil => exact fun _ none => absurd none List.not_mem_nil
  | cons first _ ih =>
      intro message hm
      rcases List.mem_cons.mp hm with rfl | later
      · exact ⟨first.claimable, first.createdAt⟩
      · exact ih message later

section AtWork

variable {s₀ : System} {t : OpenTx} {st : Store} {work : Tx}
  (opened : s₀.open? t.handle = some t) (hi : t.home.index < s₀.stores.length)
  (home : t.home = s.store)
include opened hi home

/-- An event that can be written is recorded under a name that is new. -/
theorem run_record_ok {e : RaisedEvent κ} {payload : Json}
    (system : m.host.system = s₀.put t st work) (written : e.payload = .ok payload)
    (free : work.nameTaken st (m.host.names m.host.drawn) = false) :
    m.run t.handle (s.record e) = (some (.ok ()), ⟨m.uow, { m.host with
      system := s₀.put t st (work.adding [s.messageAt m.host e payload])
      drawn := m.host.drawn + 1 }⟩) := by
  have added : work.add st (s.messageAt m.host e payload) =
      .ok (work.adding [s.messageAt m.host e payload]) := Tx.add_eq_ok_iff.mpr ⟨free, rfl⟩
  have requested := System.request_put opened hi st work m.host.clock
    (.add (s.messageAt m.host e payload))
  rw [Tx.request, added, ← system, home] at requested
  rw [run_record, written]
  dsimp only
  rw [requested]
  rfl

/-- **All events are recorded,** in order, under the names that are drawn. -/
theorem run_forM_record {events : List (RaisedEvent κ)}
    (system : m.host.system = s₀.put t st work)
    (written : ∀ e ∈ events, ∃ payload, e.payload = .ok payload)
    (free : ∀ id ∈ m.host.upcoming events.length, work.nameTaken st id = false)
    (distinct : (m.host.upcoming events.length).Nodup) :
    ∃ messages m', m.run t.handle (events.forM s.record) = (some (.ok ()), m') ∧
      m'.host.system = s₀.put t st (work.adding messages) ∧
      List.Forall₂ (s.RecordedAt m.host.clock) events messages ∧
      messages.map (·.id) = m.host.upcoming events.length := by
  induction events generalizing m work with
  | nil => exact ⟨[], m, rfl, by rw [Tx.adding_nil, system], .nil, rfl⟩
  | cons e rest ih =>
      obtain ⟨payload, written₁⟩ := written e List.mem_cons_self
      rw [List.length_cons, Host.upcoming_succ] at free distinct
      obtain ⟨new, distinct⟩ := List.nodup_cons.mp distinct
      let message := s.messageAt m.host e payload
      have first := run_record_ok opened hi home system written₁ (free _ List.mem_cons_self)
      let next : Moment κ ω := ⟨m.uow, { m.host with
        system := s₀.put t st (work.adding [message]), drawn := m.host.drawn + 1 }⟩
      -- the message that was added has another name than the later ones
      have stillFree : ∀ id ∈ next.host.upcoming rest.length,
          (work.adding [message]).nameTaken st id = false := by
        intro id hid
        obtain ⟨tables, notOwn⟩ :=
          Tx.nameTaken_eq_false_iff.mp (free id (List.mem_cons_of_mem _ hid))
        refine Tx.nameTaken_eq_false_iff.mpr ⟨tables, ?_⟩
        rw [Changes.inserted?_eq_none_iff] at notOwn ⊢
        rw [Tx.adding, List.map_append, List.mem_append, not_or]
        refine ⟨notOwn, fun this => new ?_⟩
        have named : id = m.host.names m.host.drawn := List.mem_singleton.mp this
        exact named ▸ hid
      obtain ⟨messages, m', later, system', recorded, names⟩ := ih (m := next) rfl
        (fun e' he' => written e' (List.mem_cons_of_mem e he')) stillFree distinct
      refine ⟨message :: messages, m', ?_, ?_,
        .cons ⟨recordedAs_messageAt s m.host written₁, rfl⟩ recorded, ?_⟩
      · show m.run t.handle (s.record e >>= fun _ => rest.forM s.record) = _
        rw [Moment.run_bind, first]
        exact later
      · rw [system', Tx.adding_adding]
        rfl
      · rw [List.map_cons, names, List.length_cons, Host.upcoming_succ]
        rfl

/-- **A run of the stage** that nothing is in the way of. -/
theorem run_publishes (deferred : s.registry.DeferredOnly) (rounds : 0 < s.maxRounds)
    (system : m.host.system = s₀.put t st work)
    (written : ∀ e ∈ m.uow.raised, ∃ payload, e.payload = .ok payload)
    (free : ∀ id ∈ m.host.upcoming m.uow.raised.length, work.nameTaken st id = false)
    (distinct : (m.host.upcoming m.uow.raised.length).Nodup) :
    ∃ messages m', m.run t.handle s.run = (some (.ok m.uow.raised.length), m') ∧
      m'.host.system = s₀.put t st (work.adding messages) ∧
      List.Forall₂ (s.RecordedAt m.host.clock) m.uow.raised messages ∧
      messages.map (·.id) = m.host.upcoming m.uow.raised.length := by
  obtain ⟨messages, m', recorded, system', all, names⟩ :=
    run_forM_record (m := ⟨.empty, m.host⟩) opened hi home system written free distinct
  refine ⟨messages, m', ?_, system', all, names⟩
  rw [run, Moment.run_bind, run_dispatchRounds_deferred deferred rounds]
  dsimp only
  rw [Moment.run_bind, recorded]
  rfl

end AtWork

/-! ## The command -/

/-- **What the command leaves to the stage**, on a host: it results in `output`, with the moment
`m`, and with its transaction as it is then. -/
structure Leaves (s : EventStage κ ω) (command : CommandM κ ω ε α) (h : Host ω) (output : α)
    (m : Moment κ ω) (tx : Tx) : Prop where
  handled : (s.opening h).run (s.commandTx h).handle command = (some (.ok output), m)
  left : m.host.system.open? (s.commandTx h).handle = some { s.commandTx h with tx := tx }

/-- **The names of the messages are new**: they do not repeat, and neither the tables nor the
command's transaction know them. -/
structure NewNames (s : EventStage κ ω) (h : Host ω) (tx : Tx) (names : List MessageId) : Prop where
  distinct : names.Nodup
  free : ∀ id ∈ names, tx.nameTaken (h.system.store s.store) id = false
  unburied : ∀ id ∈ names, id ∉ tx.changes.deadLettered.map (·.id)

/-- **A command publishes its events.** If all handlers are deferred ones and the names for the
messages are new, then a command whose own work succeeds, succeeds. Its store has what the command
wrote, and behind that a row for each event, in order. -/
theorem execute_publishes {command : CommandM κ ω ε α} {h : Host ω} {output : α} {m : Moment κ ω}
    {tx : Tx} (orderly : h.system.Orderly) (hi : s.store.index < h.system.stores.length)
    (deferred : s.registry.DeferredOnly) (rounds : 0 < s.maxRounds)
    (leaves : s.Leaves command h output m tx)
    (written : ∀ e ∈ m.uow.raised, ∃ payload, e.payload = .ok payload)
    (new : s.NewNames h tx (m.host.upcoming m.uow.raised.length)) :
    ∃ messages h', Host.run (s.execute command) h = (some (.ok output), h') ∧
      List.Forall₂ (s.RecordedAt m.host.clock) m.uow.raised messages ∧
      messages.map (·.id) = m.host.upcoming m.uow.raised.length ∧
      (tx.adding messages).changes.apply (h.system.store s.store) =
        (tx.changes.apply (h.system.store s.store)).extended messages ∧
      h'.system = { h.system.setStore s.store
        ((tx.adding messages).changes.apply (h.system.store s.store)) with
          begun := h.system.begun + 1 } := by
  have opened := open?_commandTx orderly (s := s)
  obtain ⟨st, tx', system, only⟩ := work_commandTx orderly hi leaves.handled (opening_put orderly)
    (Tx.OnlyLocks.start (h.system.store s.store))
  -- the transaction is the one that the command left
  have same : tx' = tx := by
    have found : m.host.system.open? (s.commandTx h).handle =
        some { s.commandTx h with tx := tx' } := by
      rw [system]
      exact System.open?_put_self opened
    rw [leaves.left] at found
    cases found
    rfl
  subst same
  have names : ∀ id, tx'.nameTaken st id = tx'.nameTaken (h.system.store s.store) id := by
    intro id
    rw [only.tables]
    rfl
  obtain ⟨messages, m', staged, system', recorded, drawn⟩ := run_publishes opened hi rfl deferred
    rounds system written (fun id hid => (names id).trans (new.free id hid)) new.distinct
  have committed := commit_commandTx orderly hi system'
    (⟨only.tables, only.free⟩ : (tx'.adding messages).OnlyLocks _ _)
  have ids : ∀ {message}, message ∈ messages → message.id ∈ m.host.upcoming m.uow.raised.length :=
    fun hm => drawn ▸ List.mem_map_of_mem hm
  have applied : (tx'.adding messages).changes.apply (h.system.store s.store) =
      (tx'.changes.apply (h.system.store s.store)).extended messages :=
    Tx.apply_adding ⟨fun message hm => new.free _ (ids hm), drawn ▸ new.distinct⟩
      fun message hm => new.unburied _ (ids hm)
  have ran : Host.run (s.execute command) h =
      Host.run (s.conclude (s.commandTx h).handle output) m'.host := by
    rw [run_execute, leaves.handled]
    dsimp only
    rw [staged]
  exact ⟨messages, _, ran.trans (run_conclude output committed), recorded, drawn, applied, rfl⟩

end EventStage

end MaintenanceOutbox
