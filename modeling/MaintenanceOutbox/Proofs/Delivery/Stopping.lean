import MaintenanceOutbox.Proofs.Delivery.Running

set_option autoImplicit false

/-! # A worker that stops

A running worker looks at its stop signal at the top of every turn and before every delivery, and
nowhere else. `Worker.stops_gracefully` says what follows from that for a run that is at any point,
with others at work on the same stores and the signal given at any time: what the worker still does
after that, and what it leaves behind when it is between two turns, out of the loop or asleep. A
worker that breaks off leaves nothing behind, either.
-/

namespace MaintenanceOutbox

variable {κ ω : Type} [EventFamily κ]

/-! ## The turns of a run -/

namespace BatchReport

@[simp] theorem handled_record (r : BatchReport) (outcome : MessageOutcome) :
    (r.record outcome).handled = r.handled + 1 := by
  cases outcome <;> simp only [record, handled] <;> omega

@[simp] theorem drained_record (r : BatchReport) (outcome : MessageOutcome) :
    (r.record outcome).drained = r.drained := by
  cases outcome <;> rfl

end BatchReport

namespace Worker

variable {w : Worker κ ω} {said : Dialogue ω}

/-- A batch that runs out of messages is not full. By induction on the messages that it may still
deliver. -/
theorem handled_lt_of_drained {watched : Bool} {left : Nat} {report r : BatchReport}
    (speaks : (w.deliverUpTo watched left report).Speaks said (.ok r))
    (full : report.drained = false) (drained : r.drained = true) :
    r.handled < report.handled + left := by
  induction left generalizing report said with
  | zero =>
      cases speaks
      rw [full] at drained
      cases drained
  | succ left ih =>
      obtain ⟨stop, _, _, rfl, -, rest⟩ := Program.Speaks.of_bind speaks
      cases stop with
      | true =>
          cases rest
          rw [full] at drained
          cases drained
      | false =>
          obtain ⟨result, _, _, rfl, -, rest⟩ := Program.Speaks.of_bind rest
          match result, rest with
          | .ok none, .done _ => exact Nat.lt_add_of_pos_right (Nat.succ_pos left)
          | .ok (some outcome), rest =>
              have more := ih rest ((report.drained_record outcome).trans full)
              rw [BatchReport.handled_record] at more
              omega

/-- What a worker does in one go, with nothing but calls in between. -/
inductive Leg (w : Worker κ ω) : OutboxProgram ω (LoopPoint × WorkerStats) → Prop where
  | start (stats : WorkerStats) : Leg w (.done (.ready, stats))
  | turn (stats : WorkerStats) : Leg w (w.turn stats)
  | wake (why : Wake) (stats : WorkerStats) :
      Leg w ((fun point => (point, stats)) <$> Worker.wake why)

variable {n : Nat} {s : System} {rest : OutboxProgram ω (LoopPoint × WorkerStats)}

/-- **What is left is the rest of a leg.** -/
theorem Running.exists_leg (running : w.Running n s rest said) :
    ∃ past now leg, said = past ++ now ∧ w.Leg leg ∧
      ∀ more result, rest.Speaks more result → leg.Speaks (now ++ more) result := by
  induction running with
  | start stats => exact ⟨[], [], _, rfl, .start stats, fun _ _ speaks => speaks⟩
  | @turn _ stats said _ _ =>
      exact ⟨said, [], _, said.append_nil.symm, .turn stats, fun _ _ speaks => speaks⟩
  | @wake _ stats said _ why _ =>
      exact ⟨said, [], _, said.append_nil.symm, .wake why stats, fun _ _ speaks => speaks⟩
  | @call op next _ host reply _ _ ih =>
      obtain ⟨past, now, leg, rfl, begins, goesOn⟩ := ih
      refine ⟨past, now ++ [⟨op, reply⟩], leg, List.append_assoc _ _ _, begins, ?_⟩
      intro more result speaks
      rw [List.append_assoc]
      exact goesOn _ result (.call speaks)
  | others _ _ _ ih => exact ih

/-- Between two turns, the last leg has come to its end. -/
theorem Running.exists_leg_done {result : LoopPoint × WorkerStats}
    (running : w.Running n s (.done result) said) :
    ∃ past now leg, said = past ++ now ∧ w.Leg leg ∧ leg.Speaks now result := by
  obtain ⟨past, now, leg, same, begins, goesOn⟩ := running.exists_leg
  exact ⟨past, now, leg, same, begins, List.append_nil now ▸ goesOn [] result (.done result)⟩

/-- **A worker leaves the loop** with its state published. -/
theorem Running.stopped {stats : WorkerStats}
    (running : w.Running n s (.done (.ended, stats)) said) :
    ∃ before, said = before ++ [.entered .stopped] := by
  obtain ⟨past, now, leg, rfl, begins, speaks⟩ := running.exists_leg_done
  cases begins with
  | start => cases speaks
  | turn =>
      rcases of_speaks_turn speaks with ⟨rfl, -, -⟩ | ⟨_, result, -, -, point, -⟩
      · exact ⟨past ++ [.look true], by simp⟩
      · split at point <;> cases point
  | wake why =>
      cases why with
      | elapsed | signalled => cases speaks
      | abandoned =>
          cases speaks with
          | call rest =>
              cases rest
              exact ⟨past, rfl⟩

/-- **A worker falls asleep** after a batch that was given up or ran out of messages. -/
theorem Running.asleep {stats : WorkerStats}
    (running : w.Running n s (.done (.asleep, stats)) said) :
    ∃ before now result, said = before ++ .look false :: now ∧ (w.batch true).Speaks now result ∧
      ((∃ e, result = .error e) ∨
        ∃ report, result = .ok report ∧ report.drained = true ∧ report.handled < w.batchSize) := by
  obtain ⟨past, now, leg, rfl, begins, speaks⟩ := running.exists_leg_done
  cases begins with
  | start => cases speaks
  | turn =>
      rcases of_speaks_turn speaks with ⟨-, point, -⟩ | ⟨now, result, rfl, spoken, point, -⟩
      · cases point
      · refine ⟨past, now, result, rfl, spoken, ?_⟩
        cases result with
        | error e => exact Or.inl ⟨e, rfl⟩
        | ok report =>
            cases drained : report.drained with
            | false =>
                rw [sleepsAfter, drained] at point
                cases point
            | true =>
                have less := handled_lt_of_drained spoken rfl drained
                exact Or.inr ⟨report, rfl, drained, (Nat.zero_add w.batchSize) ▸ less⟩
  | wake why =>
      cases why with
      | elapsed | signalled => cases speaks
      | abandoned =>
          cases speaks with
          | call rest => cases rest

/-! ## After the stop signal -/

/-- Whenever the worker looked, the stop signal was given. -/
def Signalled (said : Dialogue ω) : Prop :=
  ∀ e ∈ said, e ≠ .look false

/-- If it is no longer said, it was said before. -/
theorem split_of_signalled {before after earlier later : Dialogue ω}
    (same : before ++ after = earlier ++ .look false :: later) (signalled : Signalled after) :
    ∃ now, before = earlier ++ .look false :: now ∧ later = now ++ after := by
  rcases List.append_eq_append_iff.mp same with ⟨between, -, here⟩ | ⟨now, rfl, here⟩
  · refine absurd rfl (signalled (.look false) ?_)
    rw [here]
    exact List.mem_append_right _ List.mem_cons_self
  · cases now with
    | nil =>
        rw [List.nil_append] at here
        refine absurd rfl (signalled (.look false) ?_)
        rw [← here]
        exact List.mem_cons_self
    | cons e now =>
        rw [List.cons_append, List.cons.injEq] at here
        exact ⟨now, by rw [here.1], here.2⟩

/-- **What is true of a worker at any time of a run**, when it has said `said` since it was started
and `rest` is left of its turn. -/
structure StopsGracefully (w : Worker κ ω) (s : System)
    (rest : OutboxProgram ω (LoopPoint × WorkerStats)) (said : Dialogue ω) : Prop where
  /-- a transaction is begun, in order to claim a message, right after a look at the stop signal
  that found it not given -/
  begins : ∀ before i tx after, said = before ++ .began i tx :: after →
    ∃ past, before = past ++ [.look false, .entered .claiming]
  /-- once the signal is given, and stays so, no claim is started any more, but for the claim of a
  delivery that was under way to it: the last look before had given leave, and at most two calls
  were made since that look -/
  claims : ∀ before after, said = before ++ after → Signalled after →
    ∀ past tx reply later,
      said = past ++ [.began w.store tx, .claimed w.store tx reply] ++ later →
      before.length ≤ past.length + 1 →
      ∃ earlier now, past = earlier ++ [.look false, .entered .claiming] ∧
        before = earlier ++ .look false :: now ∧ now <+: [.entered .claiming, .began w.store tx]
  /-- and at most one message is settled, the one in flight -/
  commits : ∀ before after, said = before ++ after → Signalled after →
    after.countP Exchange.isCommit ≤ 1
  /-- at any time, at most one transaction of the worker is open -/
  single : ∀ h ∈ begunIn said, ∀ k ∈ begunIn said,
    (s.open? h).isSome = true → (s.open? k).isSome = true → h = k
  /-- between two turns, and when it is out of the loop, none is open -/
  closed : ∀ result, rest = .done result → ∀ h ∈ begunIn said, s.open? h = none
  /-- and every lock is one of somebody else -/
  locks : ∀ result, rest = .done result → ∀ id ∈ (s.store w.store).locked,
    ∃ t ∈ s.openOn w.store, t.handle ∉ begunIn said ∧ id ∈ t.tx.locks
  /-- the same is true when a call of it breaks off -/
  broken : ∀ op next host, rest = .call op next → s = host.system →
    (Host.answer op host).1 = none →
      (∀ h ∈ begunIn said, (Host.answer op host).2.system.open? h = none) ∧
      ∀ id ∈ ((Host.answer op host).2.system.store w.store).locked,
        ∃ t ∈ (Host.answer op host).2.system.openOn w.store,
          t.handle ∉ begunIn said ∧ id ∈ t.tx.locks
  /-- every message that the worker has claimed by then was committed with a mark or a count, or its
  transaction was rolled back -/
  concluded : ∀ result, rest = .done result → ∀ before tx m after,
    said = before ++ [.began w.store tx, .claimed w.store tx (.ok (some m))] ++ after →
    Custody.Concluded w.store tx m after
  /-- out of the loop, the last thing that the worker published is that it stopped -/
  stopped : ∀ stats, rest = .done (.ended, stats) → ∃ before, said = before ++ [.entered .stopped]
  /-- it falls asleep after a batch that was given up, or that ran out of messages before it was
  full -/
  asleep : ∀ stats, rest = .done (.asleep, stats) → ∃ before now result,
    said = before ++ .look false :: now ∧ (w.batch true).Speaks now result ∧
      ((∃ e, result = .error e) ∨
        ∃ report, result = .ok report ∧ report.drained = true ∧ report.handled < w.batchSize)

namespace Attends

variable {v : Custody}

/-- A claim after the signal was let through before it. -/
theorem claims_of_signalled (attends : w.Attends s said v)
    {before after : Dialogue ω} (split : said = before ++ after)
    (signalled : Signalled after) {past later : Dialogue ω} {tx : TxHandle}
    {reply : Except StoreError (Option QueuedMessage)}
    (claimed : said = past ++ [.began w.store tx, .claimed w.store tx reply] ++ later)
    (since : before.length ≤ past.length + 1) :
    ∃ earlier now, past = earlier ++ [.look false, .entered .claiming] ∧
      before = earlier ++ .look false :: now ∧
      now <+: [.entered .claiming, .began w.store tx] := by
  have path := attends.path
  rw [claimed, List.append_assoc] at path
  obtain ⟨earlier, rfl⟩ := path.of_began
  have same : before ++ after = earlier ++ .look false ::
      ([.entered .claiming, .began w.store tx] ++ .claimed w.store tx reply :: later) := by
    rw [← split, claimed]
    simp
  obtain ⟨now, rfl, rest⟩ := split_of_signalled same signalled
  refine ⟨earlier, now, rfl, rfl, ?_⟩
  refine List.prefix_of_prefix_length_le ⟨after, rest.symm⟩ (List.prefix_append _ _) ?_
  simp only [List.length_append, List.length_cons, List.length_nil] at since ⊢
  omega

theorem commits_of_signalled (attends : w.Attends s said v)
    {before after : Dialogue ω} (split : said = before ++ after)
    (signalled : Signalled after) : after.countP Exchange.isCommit ≤ 1 := by
  have path := attends.path
  rw [split] at path
  obtain ⟨u, -, path⟩ := Custody.path_append_iff.mp path
  have few := path.commits_le signalled
  have one : u.ahead ≤ 1 := by
    cases u with
    | idle a => cases a <;> decide
    | entering | opened | working => exact Nat.le_refl 1
  omega

/-- The transaction that is open is the one at hand. -/
theorem tx?_of_open (attends : w.Attends s said v) {h : TxHandle} (mem : h ∈ begunIn said)
    (opened : (s.open? h).isSome = true) : v.tx? = some h := by
  refine (attends.holds.closed h mem).resolve_right fun closed => ?_
  rw [closed] at opened
  cases opened

end Attends

/-- Where no transaction of the worker is open, every lock is one of somebody else. -/
theorem unlocked_of_closed (hi : w.store.index < n) {calls : List Call}
    (reached : s = (System.ofSize n).run calls) (closed : ∀ h ∈ begunIn said, s.open? h = none) :
    ∀ id ∈ (s.store w.store).locked,
      ∃ t ∈ s.openOn w.store, t.handle ∉ begunIn said ∧ id ∈ t.tx.locks := by
  subst reached
  intro id held
  have distinct := System.distinct_run (System.orderly_ofSize n) List.nodup_nil calls
  have agree := System.locksAgree_of_locking distinct (System.locking_run hi calls)
  obtain ⟨t, ht, locked⟩ := List.mem_flatMap.mp (agree.perm.mem_iff.mp held)
  refine ⟨t, ht, fun ours => ?_, locked⟩
  have opened := System.open?_of_mem distinct (System.mem_openOn.mp ht).1
  rw [closed _ ours] at opened
  cases opened

/-- Between two turns no transaction of the worker is open. -/
theorem Running.closed {result : LoopPoint × WorkerStats} (hi : w.store.index < n)
    (running : w.Running n s (.done result) said) : ∀ h ∈ begunIn said, s.open? h = none := by
  obtain ⟨v, attends, a, rfl⟩ := running.attends hi
  intro h mem
  refine (attends.holds.closed h mem).resolve_left fun here => ?_
  cases here

/-- **After a call that breaks off** none is, either. -/
theorem Running.closed_of_broken (hi : w.store.index < n) {op : OutboxOp ω}
    {next : op.Reply → OutboxProgram ω (LoopPoint × WorkerStats)} (host : Host ω)
    (running : w.Running n host.system (.call op next) said)
    (broken : (Host.answer op host).1 = none) :
    ∀ h ∈ begunIn said, (Host.answer op host).2.system.open? h = none := by
  obtain ⟨v, attends, follows⟩ := running.attends hi
  obtain ⟨orderly, hi'⟩ := running.orderly hi
  -- whatever the answer had been, the transaction at hand was dropped
  obtain ⟨tx, i, id, error, rfl⟩ := Host.counts_of_broken broken
  obtain ⟨_, goes, -⟩ := follows (.error default)
  have holds := attends.breaks orderly hi' broken goes
  intro h mem
  exact (holds.closed h mem).resolve_left nofun

/-- **A worker stops gracefully,** at any time of any run. -/
theorem stops_gracefully (hi : w.store.index < n) (running : w.Running n s rest said) :
    w.StopsGracefully s rest said := by
  obtain ⟨v, attends, follows⟩ := running.attends hi
  -- between two turns nothing is at hand
  have idle : ∀ result, rest = .done result → v.tx? = none := by
    rintro result rfl
    obtain ⟨a, rfl⟩ := follows
    rfl
  refine
    { begins := ?_
      claims := fun _ _ split signalled _ _ _ _ claimed since =>
        attends.claims_of_signalled split signalled claimed since
      commits := fun _ _ split signalled => attends.commits_of_signalled split signalled
      single := ?_
      closed := ?_
      locks := ?_
      broken := ?_
      concluded := ?_
      stopped := ?_
      asleep := ?_ }
  · rintro before i tx after rfl
    exact attends.path.of_began
  · intro h hh k hk opened opened'
    have same := (attends.tx?_of_open hh opened).symm.trans (attends.tx?_of_open hk opened')
    exact Option.some.inj same
  · rintro result rfl
    exact running.closed hi
  · rintro result rfl
    obtain ⟨calls, reached⟩ := running.exists_run
    exact unlocked_of_closed hi reached (running.closed hi)
  · rintro op next host rfl rfl broken
    have closed := Running.closed_of_broken hi host running broken
    obtain ⟨calls, reached⟩ := running.exists_run
    have reached' : (Host.answer op host).2.system =
        (System.ofSize n).run (calls ++ (op.calls host.clock ++ op.dropCalls)) := by
      rw [Host.system_answer_none broken, System.run_append _ calls, ← reached]
    exact ⟨closed, unlocked_of_closed hi reached' closed⟩
  · rintro result done before tx m after rfl
    refine (attends.path.concluded ?_).resolve_right ?_
    · intro e mem
      exact attends.confirmed e (List.mem_append_right _ mem)
    · rintro ⟨noted, rfl, -⟩
      cases idle result done
  · rintro stats rfl
    exact running.stopped
  · rintro stats rfl
    exact running.asleep

/-! ## A worker that is signalled in its sleep -/

/-- The first turn of a worker on a host. -/
def firstTurn (w : Worker κ ω) (h : Host ω) : Option (LoopPoint × WorkerStats) × Host ω :=
  Host.run (w.turn {}) h

/-- The host after the first turn, when others have made some calls and the stop signal is given. -/
def signalledHost (w : Worker κ ω) (h : Host ω) (calls : List Call) : Host ω :=
  { (w.firstTurn h).2 with system := (w.firstTurn h).2.system.run calls, stop := true }

/-- The second turn, with the statistics of the first one. -/
def secondTurn (w : Worker κ ω) (stats : WorkerStats) (h : Host ω) (calls : List Call) :
    Option (LoopPoint × WorkerStats) × Host ω :=
  Host.run (w.turn stats) (w.signalledHost h calls)

/-- What is said in both turns. -/
def spoken (w : Worker κ ω) (stats : WorkerStats) (h : Host ω) (calls : List Call) : Dialogue ω :=
  (w.turn {}).dialogue Host.answer h ++
    (w.turn stats).dialogue Host.answer (w.signalledHost h calls)

/-- A worker that falls asleep may be woken up by the stop signal, after others did something. -/
theorem Running.signalled {h : Host ω} (running : w.Running n h.system (w.turn {}) [])
    {stats : WorkerStats} (sleeps : (w.firstTurn h).1 = some (.asleep, stats)) {calls : List Call}
    (away : ∀ c ∈ calls, ∀ k ∈ begunIn ((w.turn {}).dialogue Host.answer h), ¬ c.On k)
    {result : LoopPoint × WorkerStats} (ends : (w.secondTurn stats h calls).1 = some result) :
    w.Running n (w.secondTurn stats h calls).2.system (.done result) (w.spoken stats h calls) := by
  have first := running.dialogue (Prod.ext sleeps rfl)
  rw [List.nil_append] at first
  have awake := (first.others_run away).wake .signalled
  exact (Running.turn awake).dialogue (h := w.signalledHost h calls) (Prod.ext ends rfl)

end Worker

namespace Door

/-- Somebody else takes the message that is left. -/
def taken : List Call :=
  [.beginTx ⟨0⟩, .request default ⟨0⟩ ⟨3⟩ .claimNext]

/-- The porter's statistics after one batch that was given up. -/
def troubled : WorkerStats :=
  { infrastructureErrors := 1 }

/-- The porter's second turn. -/
def leaving : Option (Worker.LoopPoint × WorkerStats) × Host Unit :=
  porter.secondTurn troubled (host given) taken

theorem running : porter.Running 1 leaving.2.system (.done (.ended, troubled))
    (porter.spoken troubled (host given) taken) := by
  have started : porter.Running 1 (host given).system (porter.turn {}) [] := by
    refine .turn (.others_run (.start {}) ?_)
    exact fun _ _ _ mem => absurd mem List.not_mem_nil
  exact started.signalled (by decide +kernel) (by decide +kernel) (by decide +kernel)

end Door

/-- The porter delivers one message, loses connectivity at the other one and falls asleep. While
somebody else takes that message, the stop signal is given, and the porter leaves its loop. -/
theorem Worker.stops_gracefully_porter :
    let said := Door.porter.spoken Door.troubled (Door.host Door.given) Door.taken
    Door.leaving.1 = some (.ended, Door.troubled) ∧ begunIn said = [⟨1⟩, ⟨2⟩] ∧
      (Door.leaving.2.system.store ⟨0⟩).locked = [⟨.ofNat 2⟩] ∧
      Door.porter.StopsGracefully Door.leaving.2.system (.done (.ended, Door.troubled)) said := by
  refine ⟨?_, ?_, ?_, Worker.stops_gracefully (by decide) Door.running⟩
  · decide +kernel
  · decide +kernel
  · decide +kernel

end MaintenanceOutbox
