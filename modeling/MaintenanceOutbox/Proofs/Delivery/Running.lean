import MaintenanceOutbox.Proofs.Delivery.Custody
import MaintenanceOutbox.Proofs.Delivery.Turns

set_option autoImplicit false

/-! # A worker in its run loop

`Worker.Running` is a run of a worker that goes from turn to turn of its loop, call by call, on a
system of stores on which others are at work too. Between any two calls of the worker, others may
make any calls, but for calls on the transactions that were begun by the worker, which nobody else
has. The stop signal may be found given or not at every look, the clock may go as it likes, and a
sleeping worker may wake up for any reason at any time. A call that breaks off is the end of the
run.

At any time of such a run, of all transactions that the worker has begun, only the one is open that
it has in hand, if there is any (`System.HoldsOnly`), and after a call that breaks off none is
(`Worker.Attends.breaks`).
-/

namespace MaintenanceOutbox

variable {ω : Type}

/-- Is it a call on the transaction? -/
def Call.On (h : TxHandle) : Call → Prop
  | .request _ _ k _ => k = h
  | .commit _ k => k = h
  | .rollback _ k => k = h
  | .drop k => k = h
  | _ => False

instance (h : TxHandle) : DecidablePred (Call.On h) := fun c =>
  match c with
  | .request _ _ k _ | .commit _ k | .rollback _ k | .drop k => inferInstanceAs (Decidable (k = h))
  | .beginTx _ | .requeue _ _ | .deleteDeadLetter _ _ | .purge _ _ =>
    inferInstanceAs (Decidable False)

theorem Call.on_of_ends {h : TxHandle} {c : Call} (ends : c.Ends h) : c.On h := by
  cases c with
  | commit | rollback | drop => exact ends
  | beginTx | request | requeue | deleteDeadLetter | purge => exact ends.elim

/-- The transaction that was begun, if this is its beginning. -/
def Exchange.begun? : Exchange (OutboxInterface ω) → Option TxHandle
  | ⟨op, reply⟩ =>
    match op, reply with
    | .beginTx _, (.ok tx : Except StoreError TxHandle) => some tx
    | _, _ => none

/-- The transactions that were begun in a dialogue. -/
def begunIn (said : Dialogue ω) : List TxHandle :=
  said.filterMap Exchange.begun?

theorem begunIn_concat (said : Dialogue ω) (e : Exchange (OutboxInterface ω)) :
    begunIn (said ++ [e]) = begunIn said ++ e.begun?.toList := by
  rw [begunIn, List.filterMap_append]
  cases h : e.begun? <;> simp [begunIn, h]

/-! ## The transactions of one party -/

namespace System

variable {s : System} {i : StoreId} {h : TxHandle} {given : List TxHandle} {tx? : Option TxHandle}

/-- The rollback of an open transaction is accepted. -/
theorem rollback_answer {tx : Tx} (opened : (s.view i).tx h = some tx) :
    (s.rollback i h).1 = .ok () := by
  obtain ⟨t, ht, home, -⟩ := view_tx_eq_some_iff.mp opened
  rw [rollback, ht]
  exact if_pos home

/-- A transaction that has ended is never open again. -/
theorem open?_step_of_closed (orderly : s.Orderly) (closed : s.open? h = none)
    (old : h.number < s.begun) (c : Call) : (s.step c).open? h = none := by
  have close : ∀ t st, (s.close t st).open? h = none := by
    intro t st
    rw [open?_close]
    split
    · rfl
    · exact closed
  have drop : ∀ k, (s.drop k).open? h = none := by
    intro k
    rw [System.drop]
    split
    · exact closed
    · exact close _ _
  cases c with
  | beginTx j =>
      rw [step, open?_beginTx orderly, if_neg]
      · exact closed
      · rintro rfl
        exact Nat.lt_irrefl _ old
  | request now j k r =>
      simp only [step, request]
      split
      · exact closed
      · split
        · split
          · exact closed
          · rw [open?_put, closed]
            exact ite_self _
        · exact closed
  | commit j k =>
      simp only [step, commit]
      repeat' split
      · exact closed
      · exact close _ _
      · exact drop k
  | rollback j k =>
      simp only [step, rollback]
      split
      · exact closed
      · exact drop k
  | drop k => exact drop k
  | requeue j id =>
      simp only [step, requeue]
      split <;> exact closed
  | deleteDeadLetter j id =>
      simp only [step, deleteDeadLetter]
      split <;> exact closed
  | purge j cutoff => exact closed

theorem begun_le_step (orderly : s.Orderly) (hi : i.index < s.stores.length) (c : Call) :
    s.begun ≤ (s.step c).begun := by
  have seen := View.begun_le_step (s.view i) (c.seenFrom i)
  rw [← view_step orderly hi] at seen
  exact seen

theorem begun_le_run (orderly : s.Orderly) (hi : i.index < s.stores.length) (calls : List Call) :
    s.begun ≤ (s.run calls).begun := by
  induction calls generalizing s with
  | nil => exact Nat.le_refl _
  | cons c calls ih =>
      have hi' : i.index < (s.step c).stores.length := length_stores_step s c ▸ hi
      exact Nat.le_trans (begun_le_step orderly hi c) (ih (orderly_run orderly [c]) hi')

/-- A transaction that has ended is not open after any calls. -/
theorem open?_run_of_closed (orderly : s.Orderly) (hi : i.index < s.stores.length)
    (closed : s.open? h = none) (old : h.number < s.begun) (calls : List Call) :
    (s.run calls).open? h = none := by
  induction calls generalizing s with
  | nil => exact closed
  | cons c calls ih =>
      have hi' : i.index < (s.step c).stores.length := length_stores_step s c ▸ hi
      exact ih (orderly_run orderly [c]) hi' (open?_step_of_closed orderly closed old c)
        (Nat.lt_of_lt_of_le old (begun_le_step orderly hi c))

/-- **Of the transactions that were given,** all have ended but the one at hand, which is open on
store `i`. -/
structure HoldsOnly (s : System) (i : StoreId) (given : List TxHandle) (tx? : Option TxHandle) :
    Prop where
  mem : ∀ h, tx? = some h → h ∈ given
  opened : ∀ h, tx? = some h → ∃ tx, (s.view i).tx h = some tx
  closed : ∀ h ∈ given, tx? = some h ∨ s.open? h = none
  old : ∀ h ∈ given, h.number < s.begun

namespace HoldsOnly

theorem nothing (s : System) (i : StoreId) : s.HoldsOnly i [] none :=
  ⟨nofun, nofun, fun _ mem => absurd mem List.not_mem_nil, fun _ mem => absurd mem List.not_mem_nil⟩

/-- **A call that does not end the transaction at hand.** -/
theorem step (holds : s.HoldsOnly i given tx?) (orderly : s.Orderly)
    (hi : i.index < s.stores.length) {c : Call} (going : ∀ h, tx? = some h → ¬ c.Ends h) :
    (s.step c).HoldsOnly i given tx? := by
  refine ⟨holds.mem, ?_, ?_, ?_⟩
  · intro h here
    obtain ⟨tx, opened⟩ := holds.opened h here
    obtain ⟨tx', still, -⟩ := View.locks_step opened
      (fun ends => going h here (Call.ends_of_seenFrom ends)) (holds.old h (holds.mem h here))
    rw [view_step orderly hi]
    exact ⟨tx', still⟩
  · intro h mem
    exact (holds.closed h mem).imp id fun closed =>
      open?_step_of_closed orderly closed (holds.old h mem) c
  · intro h mem
    exact Nat.lt_of_lt_of_le (holds.old h mem) (begun_le_step orderly hi c)

/-- A transaction is begun. -/
theorem begins (holds : s.HoldsOnly i given none) (orderly : s.Orderly) :
    (s.beginTx i).2.HoldsOnly i (given ++ [⟨s.begun⟩]) (some ⟨s.begun⟩) := by
  refine ⟨?_, ?_, ?_, ?_⟩
  · rintro h ⟨⟩
    exact List.mem_append_right _ (List.mem_singleton.mpr rfl)
  · rintro h ⟨⟩
    refine ⟨{}, view_tx_eq_some_iff.mpr ⟨⟨⟨s.begun⟩, i, {}⟩, ?_, rfl, rfl⟩⟩
    rw [open?_beginTx orderly, if_pos rfl]
  · intro h mem
    rcases List.mem_append.mp mem with old | new
    · refine Or.inr (open?_step_of_closed orderly ?_ (holds.old h old) (.beginTx i))
      exact (holds.closed h old).resolve_left nofun
    · exact Or.inl (congrArg some (List.mem_singleton.mp new).symm)
  · intro h mem
    rcases List.mem_append.mp mem with old | new
    · exact Nat.lt_succ_of_lt (holds.old h old)
    · rw [List.mem_singleton.mp new]
      exact Nat.lt_succ_self s.begun

/-- The transaction at hand is ended. -/
theorem ends (holds : s.HoldsOnly i given (some h)) (orderly : s.Orderly)
    (hi : i.index < s.stores.length) {c : Call} (ends : c.Ends h) :
    (s.step c).HoldsOnly i given none := by
  refine ⟨nofun, nofun, ?_, ?_⟩
  · intro k mem
    rcases holds.closed k mem with here | closed
    · cases here
      exact Or.inr (open?_step_of_ends ends)
    · exact Or.inr (open?_step_of_closed orderly closed (holds.old k mem) c)
  · intro k mem
    exact Nat.lt_of_lt_of_le (holds.old k mem) (begun_le_step orderly hi c)

/-- An operation inside a transaction. -/
theorem inside {host : Host ω} (holds : host.system.HoldsOnly i given tx?)
    (orderly : host.system.Orderly) (hi : i.index < host.system.stores.length) {tx : TxHandle}
    {op : TxOp ω} {reply : op.Reply}
    (answered : (Host.answer (.inside tx op) host).1 = some reply) :
    (Host.answer (.inside tx op) host).2.system.HoldsOnly i given tx? := by
  rw [Host.system_answer answered]
  cases op with
  | request j r => exact holds.step (c := .request host.clock j tx r) orderly hi fun _ _ => id
  | now | freshId | tell => exact holds

/-- One that breaks off, inside the transaction at hand. -/
theorem breaks {host : Host ω} (holds : host.system.HoldsOnly i given (some h))
    (orderly : host.system.Orderly) (hi : i.index < host.system.stores.length) {op : TxOp ω}
    (broken : (Host.answer (.inside h op) host).1 = none) :
    (Host.answer (.inside h op) host).2.system.HoldsOnly i given none := by
  rw [Host.system_answer_none broken]
  cases op with
  | request j r =>
      let request : Call := .request host.clock j h r
      have after := holds.step (c := request) orderly hi fun _ _ => id
      have orderly' : (host.system.step request).Orderly :=
        System.orderly_run orderly [request]
      have hi' : i.index < (host.system.step request).stores.length :=
        System.length_stores_step host.system request ▸ hi
      exact after.ends (c := .drop h) orderly' hi' rfl
  | now | freshId | tell => cases broken

end HoldsOnly

end System

/-! ## Runs -/

namespace Worker

variable {κ : Type} [EventFamily κ] {w : Worker κ ω} {n : Nat}

/-- **A run of a worker** on a system of `n` stores: the system, what is left of the turn that the
worker is at, and what it said since it was started. -/
inductive Running (w : Worker κ ω) (n : Nat) :
    System → OutboxProgram ω (LoopPoint × WorkerStats) → Dialogue ω →
      Prop where
  | start (stats : WorkerStats) : Running w n (.ofSize n) (.done (.ready, stats)) []
  | turn {s : System} {stats : WorkerStats} {said : Dialogue ω}
      (before : Running w n s (.done (.ready, stats)) said) : Running w n s (w.turn stats) said
  | wake {s : System} {stats : WorkerStats} {said : Dialogue ω}
      (before : Running w n s (.done (.asleep, stats)) said) (why : Wake) :
      Running w n s ((fun point => (point, stats)) <$> Worker.wake why) said
  | call {op : OutboxOp ω} {next : op.Reply → OutboxProgram ω (LoopPoint × WorkerStats)}
      {said : Dialogue ω} {host : Host ω} {reply : op.Reply}
      (before : Running w n host.system (.call op next) said)
      (answered : (Host.answer op host).1 = some reply) :
      Running w n (Host.answer op host).2.system (next reply) (said ++ [⟨op, reply⟩])
  | others {s : System} {rest : OutboxProgram ω (LoopPoint × WorkerStats)}
      {said : Dialogue ω} (before : Running w n s rest said) (c : Call)
      (away : ∀ h ∈ begunIn said, ¬ c.On h) : Running w n (s.step c) rest said

variable {s : System} {rest : OutboxProgram ω (LoopPoint × WorkerStats)}
  {said : Dialogue ω}

/-- The system got where it is by calls. -/
theorem Running.exists_run (running : w.Running n s rest said) :
    ∃ calls, s = (System.ofSize n).run calls := by
  induction running with
  | start => exact ⟨[], rfl⟩
  | turn _ ih => exact ih
  | wake _ _ ih => exact ih
  | @call op _ _ host _ _ answered ih =>
      obtain ⟨calls, same⟩ := ih
      refine ⟨calls ++ op.calls host.clock, ?_⟩
      rw [Host.system_answer answered, same, System.run_append]
  | others _ c _ ih =>
      obtain ⟨calls, rfl⟩ := ih
      exact ⟨calls ++ [c], (System.run_concat _ _ _).symm⟩

theorem Running.orderly (running : w.Running n s rest said) (hi : w.store.index < n) :
    s.Orderly ∧ w.store.index < s.stores.length := by
  obtain ⟨calls, rfl⟩ := running.exists_run
  exact ⟨System.orderly_run (System.orderly_ofSize n) calls, System.index_lt_run hi calls⟩

/-- **What a running worker has in hand** agrees with what it said and with the system. -/
structure Attends (w : Worker κ ω) (s : System) (said : Dialogue ω)
    (v : Custody) : Prop where
  path : Custody.Path w.store (.idle false) said v
  holds : s.HoldsOnly w.store (begunIn said) v.tx?
  confirmed : ∀ e ∈ said, e.Confirmed

namespace Attends

variable {v v' : Custody}

/-- Something was said that began no transaction. -/
theorem say {e : Exchange (OutboxInterface ω)} {s' : System} (attends : w.Attends s said v)
    (goes : Custody.Goes w.store v e v') (none' : e.begun? = none)
    (holds : s'.HoldsOnly w.store (begunIn said) v'.tx?) (confirmed : e.Confirmed) :
    w.Attends s' (said ++ [e]) v' := by
  refine ⟨Custody.path_concat_iff.mpr ⟨v, attends.path, goes⟩, ?_, ?_⟩
  · rw [begunIn_concat, none', Option.toList_none, List.append_nil]
    exact holds
  · intro e' mem
    rcases List.mem_append.mp mem with old | new
    · exact attends.confirmed e' old
    · exact List.mem_singleton.mp new ▸ confirmed

/-- **A call of the worker.** -/
theorem call {host : Host ω} {op : OutboxOp ω} {reply : op.Reply}
    (attends : w.Attends host.system said v) (orderly : host.system.Orderly)
    (hi : w.store.index < host.system.stores.length)
    (answer : (Host.answer op host).1 = some reply)
    (goes : Custody.Goes w.store v ⟨op, reply⟩ v') :
    w.Attends (Host.answer op host).2.system (said ++ [⟨op, reply⟩]) v' := by
  have holds := attends.holds
  have goes' := goes
  cases goes with
  | warned | admitted | published | enters | tells => exact attends.say goes' rfl holds trivial
  | begins tx =>
      cases answer
      refine ⟨Custody.path_concat_iff.mpr ⟨_, attends.path, goes'⟩, ?_, ?_⟩
      · rw [begunIn_concat]
        exact holds.begins orderly
      · intro e mem
        rcases List.mem_append.mp mem with old | new
        · exact attends.confirmed e old
        · exact List.mem_singleton.mp new ▸ trivial
  | refused e => cases answer
  | claims tx | misses tx | inside tx | marks tx | counts tx =>
      exact attends.say goes' rfl (holds.inside orderly hi answer) trivial
  | commits tx m =>
      obtain ⟨t, opened⟩ := holds.opened tx rfl
      refine attends.say goes' rfl (holds.ends (c := .commit w.store tx) orderly hi rfl) ?_
      exact (Option.some.inj answer).symm.trans (System.commit_answer opened)
  | rollsBack tx =>
      obtain ⟨t, opened⟩ := holds.opened tx rfl
      refine attends.say goes' rfl (holds.ends (c := .rollback w.store tx) orderly hi rfl) ?_
      exact (Option.some.inj answer).symm.trans (System.rollback_answer opened)

/-- **A call that breaks off** leaves no transaction of the worker open. -/
theorem breaks {host : Host ω} {op : OutboxOp ω} {reply : op.Reply}
    (attends : w.Attends host.system said v) (orderly : host.system.Orderly)
    (hi : w.store.index < host.system.stores.length) (broken : (Host.answer op host).1 = none)
    (goes : Custody.Goes w.store v ⟨op, reply⟩ v') :
    (Host.answer op host).2.system.HoldsOnly w.store (begunIn said) none := by
  have holds := attends.holds
  cases goes with
  | warned | admitted | published | enters | tells | begins | refused | commits | rollsBack =>
      cases broken
  | claims | misses | inside | marks | counts => exact holds.breaks orderly hi broken

end Attends

/-- **At any time of a run,** the worker has in hand what the protocol says. By induction on the
run. -/
theorem Running.attends (running : w.Running n s rest said) (hi : w.store.index < n) :
    ∃ v, w.Attends s said v ∧ rest.Follows w.store Idles v := by
  induction running with
  | start stats =>
      have silent : ∀ e ∈ ([] : Dialogue ω), e.Confirmed :=
        fun _ mem => absurd mem List.not_mem_nil
      exact ⟨.idle false, ⟨rfl, .nothing _ _, silent⟩, false, rfl⟩
  | turn _ ih =>
      obtain ⟨v, attends, a, rfl⟩ := ih
      exact ⟨_, attends, w.follows_turn _ a⟩
  | wake _ why ih =>
      obtain ⟨v, attends, a, rfl⟩ := ih
      exact ⟨_, attends, .bind (w.follows_wake why a)⟩
  | @call op next said host reply before answered ih =>
      obtain ⟨v, attends, follows⟩ := ih
      obtain ⟨v', goes, rest⟩ := follows reply
      obtain ⟨orderly, hi'⟩ := before.orderly hi
      exact ⟨v', attends.call orderly hi' answered goes, rest⟩
  | others before c away ih =>
      obtain ⟨v, ⟨path, holds, confirmed⟩, follows⟩ := ih
      obtain ⟨calls, rfl⟩ := before.exists_run
      refine ⟨v, ⟨path, ?_, confirmed⟩, follows⟩
      refine holds.step (System.orderly_run (System.orderly_ofSize n) calls)
        (System.index_lt_run hi calls) ?_
      intro h here ends
      exact away h (holds.mem h here) (Call.on_of_ends ends)

/-- A program that is left of a turn may be run on a host, if it comes to a result there. -/
theorem Running.dialogue {p : OutboxProgram ω (LoopPoint × WorkerStats)} {h h' : Host ω}
    {result : LoopPoint × WorkerStats} (running : w.Running n h.system p said)
    (ran : Host.run p h = (some result, h')) :
    w.Running n h'.system (.done result) (said ++ p.dialogue Host.answer h) := by
  induction p generalizing h said with
  | done a =>
      cases ran
      show w.Running n _ (.done result) (said ++ [])
      rw [List.append_nil]
      exact running
  | call op next ih =>
      rcases answered : (Host.answer op h : Option op.Reply × Host ω) with ⟨_ | reply, h₁⟩
      · rw [show Host.run (.call op next) h = _ from Program.runFrom_call_none answered] at ran
        cases ran
      · rw [show Host.run (.call op next) h = _ from Program.runFrom_call answered] at ran
        have step := Running.call running (congrArg Prod.fst answered)
        rw [answered] at step
        have more := ih reply step ran
        rw [← List.append_cons] at more
        rw [show Program.dialogue Host.answer (.call op next) h = _ from
          Program.dialogue_call answered]
        exact more

/-- Others may make several calls. -/
theorem Running.others_run (running : w.Running n s rest said) {calls : List Call}
    (away : ∀ c ∈ calls, ∀ h ∈ begunIn said, ¬ c.On h) : w.Running n (s.run calls) rest said := by
  induction calls generalizing s with
  | nil => exact running
  | cons c calls ih =>
      refine ih (running.others c (away c List.mem_cons_self)) ?_
      exact fun d hd => away d (List.mem_cons_of_mem _ hd)

end Worker

end MaintenanceOutbox
