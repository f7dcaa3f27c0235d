import MaintenanceOutbox.Proofs.Pipeline.Recording

set_option autoImplicit false

/-! # Commands are atomic

A command runs in a transaction of its own: the command handler, the rounds of dispatch with all
transactional handlers, the recording, and then a commit or a rollback. While it runs, nobody else
does anything.

**All or nothing** (`EventStage.execute_atomic`). A command that succeeds leaves behind what the
commit of its one transaction makes of the tables as they were: the net writes of the command and of
the handlers, then one new row for each dispatched event. A command that fails, for whatever reason
and however far it came, leaves everything behind as it was, buffered writes and locks included, and
the failure that it reports is the one that stopped it. So does a command that breaks off, and
reports nothing.
-/

namespace MaintenanceOutbox

variable {κ ω ε α : Type} [EventFamily κ]

namespace EventStage

variable {s : EventStage κ ω} {command : CommandM κ ω ε α} {h h' : Host ω}

/-! ## The transaction of a command -/

/-- The transaction in which a command is executed on a host. -/
def commandTx (s : EventStage κ ω) (h : Host ω) : OpenTx :=
  ⟨⟨h.system.begun⟩, s.store, {}⟩

/-- The moment at which the command begins its work. -/
def opening (s : EventStage κ ω) (h : Host ω) : Moment κ ω :=
  ⟨.empty, { h with system := (h.system.beginTx s.store).2 }⟩

/-- **The execution of a command**: the command's own work, a run of the stage, and the end of the
transaction. -/
theorem run_execute (s : EventStage κ ω) (command : CommandM κ ω ε α) (h : Host ω) :
    Host.run (s.execute command) h =
      match (s.opening h).run (s.commandTx h).handle command with
      | (none, m) => (none, m.host)
      | (some (.error e), m) => Host.run (s.abandon (s.commandTx h).handle (.command e)) m.host
      | (some (.ok output), m) =>
        match m.run (s.commandTx h).handle s.run with
        | (none, m') => (none, m'.host)
        | (some (.error e), m') => Host.run (s.abandon (s.commandTx h).handle e.widen) m'.host
        | (some (.ok _), m') => Host.run (s.conclude (s.commandTx h).handle output) m'.host := by
  have begins : Host.run (OutboxProgram.beginTx s.store) h =
      (some (.ok (s.commandTx h).handle), (s.opening h).host) := rfl
  rw [execute, Host.run_bind begins]
  refine (Moment.run_within (s.commandTx h).handle (s.opening h) command _).trans ?_
  rcases (s.opening h).run (s.commandTx h).handle command with ⟨_ | e | output, m⟩
  · rfl
  · rfl
  · dsimp only
    refine (Moment.run_within (s.commandTx h).handle m s.run _).trans ?_
    rcases m.run (s.commandTx h).handle s.run with ⟨_ | e | n, m'⟩
    · rfl
    · rfl
    · rfl

theorem run_abandon (s : EventStage κ ω) (tx : TxHandle) (e : PipelineError ε) (h : Host ω) :
    Host.run (s.abandon tx e : OutboxProgram ω (Except (PipelineError ε) α)) h =
      (some (.error e), { h with system := (h.system.rollback s.store tx).2 }) := rfl

theorem run_conclude {tx : TxHandle} {system : System} (output : α)
    (done : h.system.commit s.store tx = (.ok (), system)) :
    Host.run (s.conclude tx output : OutboxProgram ω (Except (PipelineError ε) α)) h =
      (some (.ok output), { h with system := system }) := by
  have asked : Host.run (OutboxProgram.commit s.store tx) h =
      (some (.ok ()), { h with system := system }) :=
    congrArg (fun p => (some p.1, { h with system := p.2 })) done
  rw [conclude, Host.run_bind asked]
  rfl

section Ending

variable {m : Moment κ ω} {st : Store} {tx : Tx} (orderly : h.system.Orderly)
  (hi : s.store.index < h.system.stores.length)
include orderly

theorem opening_put : (s.opening h).host.system =
    (s.opening h).host.system.put (s.commandTx h) (h.system.store s.store) {} :=
  System.beginTx_eq_put orderly s.store

theorem open?_commandTx :
    (s.opening h).host.system.open? (s.commandTx h).handle = some (s.commandTx h) := by
  have opened := System.open?_beginTx orderly s.store ⟨h.system.begun⟩
  rw [if_pos rfl] at opened
  exact opened

/-- The end of the transaction without a commit. -/
theorem close_commandTx (only : tx.OnlyLocks (h.system.store s.store) st) :
    (s.opening h).host.system.close (s.commandTx h) (tx.release st) =
      { h.system with begun := h.system.begun + 1 } := by
  rw [only.release]
  refine (System.close_beginTx orderly s.store _).trans ?_
  rw [System.setStore_store]

include hi

/-- Whatever is done in the transaction, it changes the tables by its locks only. -/
theorem left_commandTx {β ε' : Type} (work : BusinessM κ ω ε' β)
    (system : m.host.system = (s.opening h).host.system.put (s.commandTx h) st tx)
    (only : tx.OnlyLocks (h.system.store s.store) st) :
    (s.opening h).host.system.Left (s.commandTx h)
      (fun st tx => tx.OnlyLocks (h.system.store s.store) st)
      (m.run (s.commandTx h).handle work).1 (m.run (s.commandTx h).handle work).2.host.system :=
  Moment.run_put (fun st tx => tx.OnlyLocks (h.system.store s.store) st) Tx.OnlyLocks.moves
    (open?_commandTx orderly) hi work system only

variable {β ε' : Type} {work : BusinessM κ ω ε' β} {m' : Moment κ ω}

theorem work_commandTx {result : Except ε' β}
    (ran : m.run (s.commandTx h).handle work = (some result, m'))
    (system : m.host.system = (s.opening h).host.system.put (s.commandTx h) st tx)
    (only : tx.OnlyLocks (h.system.store s.store) st) :
    ∃ st' tx', m'.host.system = (s.opening h).host.system.put (s.commandTx h) st' tx' ∧
      tx'.OnlyLocks (h.system.store s.store) st' := by
  obtain ⟨st', tx', only', system'⟩ := left_commandTx orderly hi work system only
  rw [ran] at system'
  exact ⟨st', tx', system', only'⟩

/-- **Work that breaks off leaves everything as it was.** -/
theorem broken_commandTx (broken : m.run (s.commandTx h).handle work = (none, m'))
    (system : m.host.system = (s.opening h).host.system.put (s.commandTx h) st tx)
    (only : tx.OnlyLocks (h.system.store s.store) st) :
    m'.host.system = { h.system with begun := h.system.begun + 1 } := by
  obtain ⟨st', tx', only', system'⟩ := left_commandTx orderly hi work system only
  rw [broken] at system'
  exact system'.trans (close_commandTx orderly only')

/-- **A rollback leaves everything as it was.** -/
theorem rollback_commandTx
    (system : m.host.system = (s.opening h).host.system.put (s.commandTx h) st tx)
    (only : tx.OnlyLocks (h.system.store s.store) st) :
    (m.host.system.rollback s.store (s.commandTx h).handle).2 =
      { h.system with begun := h.system.begun + 1 } := by
  have ended := System.rollback_put (open?_commandTx orderly) hi st tx
  rw [system]
  exact (congrArg Prod.snd ended).trans (close_commandTx orderly only)

/-- **A commit writes the transaction's changes into the tables as they were.** -/
theorem commit_commandTx
    (system : m.host.system = (s.opening h).host.system.put (s.commandTx h) st tx)
    (only : tx.OnlyLocks (h.system.store s.store) st) :
    m.host.system.commit s.store (s.commandTx h).handle =
      (.ok (), { h.system.setStore s.store (tx.changes.apply (h.system.store s.store)) with
        begun := h.system.begun + 1 }) := by
  have ended := System.commit_put (open?_commandTx orderly) hi st tx
  calc m.host.system.commit s.store (s.commandTx h).handle
      = (.ok (), (s.opening h).host.system.close (s.commandTx h) (tx.commit st)) := by
        rw [system]
        exact ended
    _ = _ := by
        rw [only.commit]
        exact congrArg (Prod.mk _) (System.close_beginTx orderly s.store _)

end Ending

/-! ## What a command leaves behind -/

/-- **What a command that succeeds leaves behind.** The command did its work up to the moment `m`,
and the stage took the course `c` from there. -/
structure Commits (s : EventStage κ ω) (command : CommandM κ ω ε α) (h : Host ω) (output : α)
    (h' : Host ω) (m m' : Moment κ ω) (c : StageCourse κ ω) : Prop where
  handled : (s.opening h).run (s.commandTx h).handle command = (some (.ok output), m)
  course : c.Leads s (s.opening h).host.system (s.commandTx h) m m'
  /-- the changes of the transaction are in the tables of its store, and nothing else happened -/
  stored : h'.system = { h.system.setStore s.store
    ((c.tx.adding c.messages).changes.apply (h.system.store s.store)) with
      begun := h.system.begun + 1 }
  /-- no lock of the transaction is left -/
  locks : (h'.system.store s.store).locked = (h.system.store s.store).locked
  /-- What the command and the handlers wrote comes first, then a row for each dispatched event;
  unless a message drew the name of one that the transaction itself had added and buried. -/
  rows : (∀ message ∈ c.messages, message.id ∉ c.tx.changes.deadLettered.map (·.id)) →
    h'.system.store s.store =
      let written := c.tx.changes.apply (h.system.store s.store)
      { written with
        nextSeq := written.nextSeq + c.messages.length
        rows := written.rows ++ Row.numbered written.nextSeq c.messages }

/-- **Where the failure of a command comes from**: its own work, or the stage. Without an error,
this is where it breaks off. -/
inductive Originates (s : EventStage κ ω) (command : CommandM κ ω ε α) (h : Host ω) :
    Option (PipelineError ε) → Prop where
  | command {e? : Option ε} {m : Moment κ ω}
      (refused : (s.opening h).run (s.commandTx h).handle command = (e?.map .error, m)) :
      Originates s command h (e?.map .command)
  | stage {output : α} {m : Moment κ ω} {e? : Option (PipelineError Empty)}
      (handled : (s.opening h).run (s.commandTx h).handle command = (some (.ok output), m))
      (stops : s.Stops (s.commandTx h).handle m e?) : Originates s command h (e?.map .widen)

/-- The tables after a command that succeeds. -/
theorem commits_of_course {output : α} {m m' : Moment κ ω} {c : StageCourse κ ω}
    (hi : s.store.index < h.system.stores.length)
    (handled : (s.opening h).run (s.commandTx h).handle command = (some (.ok output), m))
    (course : c.Leads s (s.opening h).host.system (s.commandTx h) m m')
    (only : c.tx.OnlyLocks (h.system.store s.store) c.tables)
    (stored : h'.system = { h.system.setStore s.store
      ((c.tx.adding c.messages).changes.apply (h.system.store s.store)) with
        begun := h.system.begun + 1 }) : s.Commits command h output h' m m' c := by
  have tables : h'.system.store s.store =
      (c.tx.adding c.messages).changes.apply (h.system.store s.store) := by
    rw [stored]
    exact System.store_setStore_self hi _
  refine ⟨handled, course, stored, ?_, ?_⟩
  · rw [tables]
    exact Changes.locked_apply _ _
  · -- the names that were new to the tables then were new to them from the beginning
    have names := course.names
    rw [only.tables] at names
    intro unburied
    rw [tables]
    exact Tx.apply_adding ⟨names.free, names.nodup⟩ unburied

/-- **Commands are atomic.** A command that succeeds leaves behind what the commit of its
transaction makes of the tables; a command that fails leaves everything as it was, and reports the
failure that stopped it; and a command that breaks off leaves everything as it was, too. Other
transactions may be open, as long as they do nothing, and the tables may be any; what is asked of
the handles holds after all runs (`System.orderly_run`). -/
theorem execute_atomic (orderly : h.system.Orderly)
    (hi : s.store.index < h.system.stores.length) :
    (∀ output, Host.run (s.execute command) h = (some (.ok output), h') →
      ∃ m m' c, s.Commits command h output h' m m' c) ∧
    (∀ e, Host.run (s.execute command) h = (some (.error e), h') →
      h'.system = { h.system with begun := h.system.begun + 1 } ∧
        s.Originates command h (some e)) ∧
    (Host.run (s.execute command) h = (none, h') →
      h'.system = { h.system with begun := h.system.begun + 1 } ∧ s.Originates command h none) := by
  have opening := opening_put orderly (s := s)
  have start := Tx.OnlyLocks.start (h.system.store s.store)
  rw [run_execute]
  rcases handled : (s.opening h).run (s.commandTx h).handle command with ⟨_ | e | output, m⟩
  · have undone := broken_commandTx orderly hi handled opening start
    refine ⟨nofun, nofun, ?_⟩
    rintro ⟨⟩
    have broken : s.Originates command h ((none : Option ε).map .command) := .command handled
    exact ⟨undone, broken⟩
  · obtain ⟨st₁, tx₁, system₁, only₁⟩ := work_commandTx orderly hi handled opening start
    have undone := rollback_commandTx orderly hi system₁ only₁
    dsimp only
    rw [run_abandon]
    refine ⟨nofun, ?_, nofun⟩
    rintro _ ⟨⟩
    have failed : s.Originates command h ((some e).map .command) := .command handled
    exact ⟨undone, failed⟩
  · obtain ⟨st₁, tx₁, system₁, only₁⟩ := work_commandTx orderly hi handled opening start
    dsimp only
    rcases staged : m.run (s.commandTx h).handle s.run with ⟨_ | e | n, m'⟩
    · have undone := broken_commandTx orderly hi staged system₁ only₁
      refine ⟨nofun, nofun, ?_⟩
      rintro ⟨⟩
      have stops : s.Stops (s.commandTx h).handle m none := run_stops staged
      exact ⟨undone, .stage handled stops⟩
    · obtain ⟨st₂, tx₂, system₂, only₂⟩ := work_commandTx orderly hi staged system₁ only₁
      have undone := rollback_commandTx orderly hi system₂ only₂
      dsimp only
      rw [run_abandon]
      refine ⟨nofun, ?_, nofun⟩
      rintro _ ⟨⟩
      have stops : s.Stops (s.commandTx h).handle m (some e) := run_stops staged
      exact ⟨undone, .stage handled stops⟩
    · obtain ⟨c, course, -, only₂⟩ := run_course _ Tx.OnlyLocks.moves
        (open?_commandTx orderly) hi system₁ only₁ staged
      have committed := commit_commandTx orderly hi course.added ⟨only₂.tables, only₂.free⟩
      dsimp only
      rw [run_conclude output committed]
      refine ⟨?_, nofun, nofun⟩
      rintro _ ⟨⟩
      exact ⟨m, m', c, commits_of_course hi handled course only₂ rfl⟩

end EventStage

/-! ## A countdown, executed

A command claims a message that is in the store already and starts a countdown from one, which takes
three rounds. With a cap of two rounds it fails, and nothing of it is left, not even the lock.
-/

namespace Countdown

/-- The command. -/
def launch : CommandM Countdown Unit String Unit := do
  let _ ← ExceptT.lift (StateT.lift (TxProgram.request ⟨0⟩ .claimNext))
  modify fun uow => uow.raise default .count (1 : Nat)

/-- A host with one message in its store. -/
def site : Host Unit where
  system := { stores := [{ nextSeq := 1, rows := [⟨0, .fresh ⟨.ofNat 9⟩ default "old" .null⟩] }] }
  clock := default
  names n := ⟨.ofNat n⟩

end Countdown

open Countdown in
theorem EventStage.execute_atomic_countdown :
    (∃ h', Host.run (stage.execute launch) site = (some (.ok ()), h') ∧
      (∃ m m' c, stage.Commits launch site () h' m m' c) ∧
        (h'.system.store ⟨0⟩).rows.length = 4) ∧
    ∃ h', Host.run ((stage.withMaxRounds 2).execute launch) site =
        (some (.error (.roundsExceeded 2)), h') ∧
      h'.system = { site.system with begun := 1 } := by
  have orderly : site.system.Orderly := fun t none => absurd none List.not_mem_nil
  have launched : (Host.run (stage.execute launch) site).1 = some (.ok ()) := by decide +kernel
  have stopped : (Host.run ((stage.withMaxRounds 2).execute launch) site).1 =
      some (.error (.roundsExceeded 2)) := by decide +kernel
  have rows : ((Host.run (stage.execute launch) site).2.system.store ⟨0⟩).rows.length = 4 := by
    decide +kernel
  constructor
  · have inside : stage.store.index < site.system.stores.length := Nat.one_pos
    generalize ran : Host.run (stage.execute launch) site = after at launched rows ⊢
    obtain ⟨result, h'⟩ := after
    obtain rfl : result = some (.ok ()) := launched
    exact ⟨h', rfl, (EventStage.execute_atomic orderly inside).1 () ran, rows⟩
  · have inside : (stage.withMaxRounds 2).store.index < site.system.stores.length := Nat.one_pos
    generalize ran : Host.run ((stage.withMaxRounds 2).execute launch) site = after at stopped ⊢
    obtain ⟨result, h'⟩ := after
    obtain rfl : result = some (.error (.roundsExceeded 2)) := stopped
    exact ⟨h', rfl, ((EventStage.execute_atomic orderly inside).2.1 _ ran).1⟩

end MaintenanceOutbox
